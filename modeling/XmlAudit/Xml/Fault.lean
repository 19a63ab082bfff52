import XmlAudit.Text.Quoted

/-!
# What can be wrong with a document

* `Fault`: the causes for which a document is refused.
* `Fault.message`: how a cause is worded.
* `Malformed`: a cause with the line at which it was met.
-/

namespace XmlAudit.Xml

/-- The markup in which the input can end too early. -/
inductive Construct where
  | element
  | bang
  | cdata
  | comment
  | doctype
  | instruction
deriving DecidableEq, Repr

/-- What an unfinished construct is called. -/
def Construct.label : Construct → String
  | element => "Element"
  | bang => "Bang"
  | cdata => "CData"
  | comment => "Comment"
  | doctype => "DOCTYPE"
  | instruction => "XmlDecl"

/-- The causes for which the attributes of a tag are refused; positions are byte offsets in the tag.
-/
inductive AttributeFault where
  | expectedEquals (position : Nat)
  | expectedValue (position : Nat)
  | unquotedValue (position : Nat)
  | missingQuote (position : Nat) (quote : Char)
  | duplicated (position earlier : Nat)
deriving DecidableEq, Repr

/-- How an attribute fault is worded. -/
def AttributeFault.message : AttributeFault → String
  | expectedEquals p =>
    "position " ++ toString p ++ ": attribute key must be directly followed by `=` or space"
  | expectedValue p =>
    "position " ++ toString p ++ ": `=` must be followed by an attribute value"
  | unquotedValue p =>
    "position " ++ toString p ++ ": attribute value must be enclosed in `\"` or `'`"
  | missingQuote p q =>
    "position " ++ toString p ++ ": missing closing quote `" ++ String.singleton q ++
      "` in attribute value"
  | duplicated p e =>
    "position " ++ toString p ++ ": duplicated attribute, previous declaration at position " ++
      toString e

/-- The causes for which a reference is refused; ranges are byte offsets in the text around it. -/
inductive ReferenceFault where
  | nullCharacter (first last : Nat)
  | unknownEntity (first last : Nat) (name : String)
  | unterminated (first last : Nat)
  | longHexadecimal
  | longDecimal
  | hexadecimalDigit (c : Char)
  | decimalDigit (c : Char)
  | codePoint (n : Nat)
deriving DecidableEq, Repr

/-- The start of a message about a range of characters. -/
def ReferenceFault.range (first last : Nat) : String :=
  "Error while escaping character at range " ++ toString first ++ ".." ++ toString last ++ ": "

/-- How a reference fault is worded. -/
def ReferenceFault.message : ReferenceFault → String
  | nullCharacter a b => range a b ++ "Null character entity not allowed"
  | unknownEntity a b name => range a b ++ "Unrecognized escape symbol: " ++ Text.quote name
  | unterminated a b => range a b ++ "Cannot find ';' after '&'"
  | longHexadecimal => "Cannot convert hexadecimal to utf8"
  | longDecimal => "Cannot convert decimal to utf8"
  | hexadecimalDigit c => "'" ++ String.singleton c ++ "' is not a valid hexadecimal character"
  | decimalDigit c => "'" ++ String.singleton c ++ "' is not a valid decimal character"
  | codePoint n => "'" ++ toString n ++ "' is not a valid codepoint"

/-- The causes for which a document is refused. -/
inductive Fault where
  | undecodable (encoding : String)
  | unsupportedEncoding (label : String)
  | unexpectedEnd (inside : Construct)
  | mismatchedEnd (expected found : String)
  | unknownBang (c : Char)
  | emptyDoctype
  | badAttribute (cause : AttributeFault)
  | badReference (cause : ReferenceFault)
  | secondRoot
  | strayEnd
  | textOutsideRoot
  | unboundPrefix (qualifier : String)
  | unclosed (name : String)
  | noRoot
deriving DecidableEq, Repr

/-- How a fault is worded. -/
def Fault.message : Fault → String
  | undecodable e => "input is not valid " ++ e
  | unsupportedEncoding l => "unsupported encoding `" ++ l ++ "`"
  | unexpectedEnd c => "Unexpected EOF during reading " ++ c.label
  | mismatchedEnd e f => "Expecting </" ++ e ++ "> found </" ++ f ++ ">"
  | unknownBang c =>
    "Only Comment (`--`), CDATA (`[CDATA[`) and DOCTYPE (`DOCTYPE`) nodes can start with a '!', " ++
      "but symbol `" ++ String.singleton c ++ "` found"
  | emptyDoctype => "DOCTYPE declaration must not be empty"
  | badAttribute f => f.message
  | badReference f => f.message
  | secondRoot => "content after the document element"
  | strayEnd => "end tag without a matching start tag"
  | textOutsideRoot => "character data outside the document element"
  | unboundPrefix q => "namespace prefix `" ++ q ++ "` is not bound"
  | unclosed n => "unexpected end of input, `" ++ n ++ "` is not closed"
  | noRoot => "no document element"

/-- A fault and the line at which it was met. -/
structure Malformed where
  line : Nat
  fault : Fault
deriving DecidableEq, Repr

end XmlAudit.Xml
