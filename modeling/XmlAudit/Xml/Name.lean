/-!
# Qualified names

* `QName.parse`: the part before the first colon qualifies the part after it.
* `QName.render`: the name as it is written.
-/

namespace XmlAudit.Xml

/-- The namespace that the qualifier `xml` always stands for. -/
def xmlNamespace : String := "http://www.w3.org/XML/1998/namespace"

/-- A name as written, with or without a qualifier before its local part. -/
structure QName where
  qualifier : Option String
  localPart : String
deriving DecidableEq, Repr, Inhabited

namespace QName

/-- The first colon ends the qualifier. -/
def ofChars (cs : List Char) : QName :=
  match cs.dropWhile (· ≠ ':') with
  | _ :: rest => ⟨some (String.ofList (cs.takeWhile (· ≠ ':'))), String.ofList rest⟩
  | [] => ⟨none, String.ofList cs⟩

/-- The name that a text spells. -/
def parse (s : String) : QName := ofChars s.toList

/-- The name as written. -/
def render (n : QName) : String :=
  match n.qualifier with
  | some q => q ++ ":" ++ n.localPart
  | none => n.localPart

end QName

end XmlAudit.Xml
