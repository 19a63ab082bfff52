import XmlAudit.Xml.Event

/-!
# The attributes of a tag

* `Tag.attributes`: what a tag holds after its name, an entry per attribute: its key and its value
  as written, or what is wrong with it.

Reading goes on behind a faulty attribute where a new one may start.
-/

namespace XmlAudit.Xml

open Text (byteLength isXmlBlank)

/-- An attribute as written, its value still with its references. -/
structure RawAttribute where
  key : List Char
  value : List Char
deriving DecidableEq, Repr

/-- A character that can stand in the key of an attribute behind its first one. -/
def isKeyChar (c : Char) : Bool := c ≠ '=' && !isXmlBlank c

theorem dropWhile_length_le (p : Char → Bool) (cs : List Char) :
    (cs.dropWhile p).length ≤ cs.length :=
  (List.dropWhile_sublist p).length_le

theorem length_of_dropWhile_eq_cons {p : Char → Bool} {cs rest : List Char} {c : Char}
    (h : cs.dropWhile p = c :: rest) : rest.length < cs.length := by
  have := dropWhile_length_le p cs
  rw [h, List.length_cons] at this
  omega

/-- What follows an equals sign. -/
def afterEquals? : List Char → Option (List Char)
  | [] => none
  | c :: rest => if c = '=' then some rest else none

theorem afterEquals?_length {cs rest : List Char} (h : afterEquals? cs = some rest) :
    rest.length < cs.length := by
  cases cs with
  | nil => cases h
  | cons c cs =>
    rw [afterEquals?] at h
    split at h
    · cases h
      exact Nat.lt_succ_self _
    · cases h

/-- The attributes from offset `position` of a tag on. The keys met so far come with their offsets;
the first one met counts where a key is repeated. -/
def attributesFrom (seen : List (List Char × Nat)) (position : Nat) (cs : List Char) :
    List (Except AttributeFault RawAttribute) :=
  match hstart : cs.dropWhile isXmlBlank with
  | [] => []
  | first :: behindFirst =>
    let start := position + (byteLength cs - byteLength (first :: behindFirst))
    let key := first :: behindFirst.takeWhile isKeyChar
    let behindKey := (behindFirst.dropWhile isKeyChar).dropWhile isXmlBlank
    have hkey : behindKey.length < cs.length := by
      have h1 := length_of_dropWhile_eq_cons hstart
      have h2 := dropWhile_length_le isKeyChar behindFirst
      have h3 := dropWhile_length_le isXmlBlank (behindFirst.dropWhile isKeyChar)
      simp only [behindKey]
      omega
    let here := position + (byteLength cs - byteLength behindKey)
    let finish := position + byteLength cs
    match hequals : afterEquals? behindKey with
    | some assigned =>
      have hassigned : assigned.length < cs.length :=
        Nat.lt_trans (afterEquals?_length hequals) hkey
      match seen.lookup key with
      -- what is assigned to a repeated key is skipped up to a blank, quoted or not
      | some earlier =>
        .error (.duplicated start earlier) ::
          attributesFrom seen (here + (byteLength behindKey -
            byteLength (assigned.dropWhile (!isXmlBlank ·)))) (assigned.dropWhile (!isXmlBlank ·))
      | none =>
        let seen := seen ++ [(key, start)]
        match hvalue : assigned.dropWhile isXmlBlank with
        | [] => [.error (.expectedValue finish)]
        | quote :: text =>
          have htext : text.length < assigned.length := length_of_dropWhile_eq_cons hvalue
          if quote = '"' ∨ quote = '\'' then
            match hclose : text.dropWhile (· ≠ quote) with
            | [] => [.error (.missingQuote finish quote)]
            | _ :: rest =>
              have hrest : rest.length < text.length := length_of_dropWhile_eq_cons hclose
              .ok ⟨key, text.takeWhile (· ≠ quote)⟩ ::
                attributesFrom seen (position + (byteLength cs - byteLength rest)) rest
          else
            -- so is a value without quotes
            .error (.unquotedValue (position + (byteLength cs - byteLength (quote :: text)))) ::
              attributesFrom seen (position + (byteLength cs -
                byteLength (text.dropWhile (!isXmlBlank ·)))) (text.dropWhile (!isXmlBlank ·))
    | none => .error (.expectedEquals here) :: attributesFrom seen here behindKey
termination_by cs.length
decreasing_by
  · have := dropWhile_length_le (!isXmlBlank ·) assigned
    omega
  · omega
  · have := dropWhile_length_le (!isXmlBlank ·) text
    omega
  · exact hkey

/-- The attributes of a tag, in order, with a fault in the place of each that is not well-formed. -/
def Tag.attributes (tag : Tag) : List (Except AttributeFault RawAttribute) :=
  attributesFrom [] (byteLength tag.name) tag.rest

end XmlAudit.Xml
