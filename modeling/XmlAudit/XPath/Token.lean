import XmlAudit.Number.Decimal
import XmlAudit.Text.Letters
import XmlAudit.Text.Utf8
import XmlAudit.XPath.Syntax

/-!
# The tokens of an expression

* `Token.scan`: the token with which a text starts.
* `tokens`: all tokens of an expression, each with the byte offset at which it starts.

A star and the words `and`, `or`, `div` and `mod` are operators exactly where an operand has just
ended.
-/

namespace XmlAudit.XPath

/-- The words and signs of an expression. -/
inductive Token where
  | slash
  | doubleSlash
  | pipe
  | plus
  | minus
  | compare (op : Comparison)
  | openParen
  | closeParen
  | openBracket
  | closeBracket
  | dot
  | twoDots
  | atSign
  | comma
  | axisMark
  | multiply
  | and
  | or
  | div
  | mod
  | literal (text : String)
  | number (value : Float)
  | variable (name : String)
  | name (test : NameTest)

/-- What can be wrong with the text of an expression. -/
inductive SyntaxFault where
  | unterminatedLiteral
  | missingVariableName
  | unexpectedCharacter (c : Char)
  | trailingTokens
  | expectedOpenParen
  | expectedCloseParen
  | expectedCloseBracket
  | expectedNodeTest
  | unknownAxis (name : String)
  | unsupportedNodeTest (name : String)
  | unknownFunction (name : String)
  | wrongArgumentCount (name : String) (count : Nat)
  | nestedTooDeeply
deriving DecidableEq, Repr

/-- How a syntax fault is worded. -/
def SyntaxFault.message : SyntaxFault → String
  | unterminatedLiteral => "unterminated string literal"
  | missingVariableName => "expected variable name after `$`"
  | unexpectedCharacter c => "unexpected character `" ++ String.singleton c ++ "`"
  | trailingTokens => "unexpected trailing tokens"
  | expectedOpenParen => "expected `(`"
  | expectedCloseParen => "expected `)`"
  | expectedCloseBracket => "expected `]`"
  | expectedNodeTest => "expected a node test"
  | unknownAxis n => "unknown axis `" ++ n ++ "`"
  | unsupportedNodeTest n => "node test `" ++ n ++ "()` is not supported"
  | unknownFunction n => "unknown function `" ++ n ++ "()`"
  | wrongArgumentCount n k =>
    "function `" ++ n ++ "()` does not accept " ++ toString k ++ " argument(s)"
  | nestedTooDeeply => "expression is nested too deeply"

/-- A syntax fault and the byte offset at which it was met. -/
structure SyntaxError where
  position : Nat
  fault : SyntaxFault
deriving DecidableEq, Repr

/-- How a syntax error is worded. -/
def SyntaxError.message (e : SyntaxError) : String :=
  e.fault.message ++ " at offset " ++ toString e.position

/-- Whether an operand ends with a token, so that an operator may follow it. -/
def Token.endsOperand : Token → Bool
  | .closeParen | .closeBracket | .dot | .twoDots => true
  | .literal _ | .number _ | .variable _ | .name _ => true
  | _ => false

/-- A character with which a name may start. -/
def isNameStart (c : Char) : Bool := Text.isLetter c || c = '_'

/-- A character that may stand in a name. -/
def isNameChar (c : Char) : Bool :=
  Text.isAlphanumeric c || c = '_' || c = '-' || c = '.' || c = '\u00b7'

/-- The name without colon with which a text starts; empty if there is none. -/
def leadingName (cs : List Char) : List Char :=
  match cs with
  | c :: _ => if isNameStart c then cs.takeWhile isNameChar else []
  | [] => []

/-- The name with which a text starts and the number of its characters. A colon belongs to it only
with a name or a star right behind. -/
def leadingQName? (cs : List Char) : Option (NameTest × Nat) :=
  let first := leadingName cs
  let qualifier := String.ofList first
  if first.isEmpty then none
  else
    match cs.drop first.length with
    | ':' :: '*' :: _ => some (.anyIn qualifier, first.length + 2)
    | ':' :: rest =>
      let second := leadingName rest
      if second.isEmpty then some (.name none qualifier, first.length)
      else some (.name (some qualifier) (String.ofList second), first.length + 1 + second.length)
    | _ => some (.name none qualifier, first.length)

/-- The characters of the number with which a text starts: digits and one point that is not followed
by a second one. -/
def leadingNumber (pointSeen : Bool) : List Char → List Char
  | [] => []
  | c :: cs =>
    if c.isDigit then c :: leadingNumber pointSeen cs
    else if c = '.' ∧ !pointSeen ∧ cs.head? ≠ some '.' then c :: leadingNumber true cs
    else []

/-- The token of the number with which a text starts. -/
def numberToken (cs : List Char) : Token × Nat :=
  let digits := leadingNumber false cs
  (.number (Number.Decimal.read false digits), digits.length)

/-- The token of a name, which behind an operand may be an operator. -/
def nameToken (behindOperand : Bool) (test : NameTest) : Token :=
  if behindOperand then
    match test with
    | .name none "and" => .and
    | .name none "or" => .or
    | .name none "div" => .div
    | .name none "mod" => .mod
    | _ => .name test
  else .name test

/-- The token of a literal, given its quote and what follows it. -/
def literalToken (quote : Char) (cs : List Char) : Except SyntaxFault (Token × Nat) :=
  let text := cs.takeWhile (· ≠ quote)
  if text.length = cs.length then .error .unterminatedLiteral
  else .ok (.literal (String.ofList text), text.length + 2)

/-- The token of a star, given what follows it. -/
def starToken (behindOperand : Bool) (cs : List Char) : Token × Nat :=
  if behindOperand then (.multiply, 1)
  else
    match cs with
    | ':' :: rest =>
      let part := leadingName rest
      if part.isEmpty then (.name .any, 1)
      else (.name (.anywhere (String.ofList part)), part.length + 2)
    | _ => (.name .any, 1)

/-- The token with which a text starts and the number of its characters. -/
def Token.scan (behindOperand : Bool) (c : Char) (cs : List Char) :
    Except SyntaxFault (Token × Nat) :=
  match c, cs with
  | '/', '/' :: _ => .ok (.doubleSlash, 2)
  | '/', _ => .ok (.slash, 1)
  | '|', _ => .ok (.pipe, 1)
  | '+', _ => .ok (.plus, 1)
  | '-', _ => .ok (.minus, 1)
  | '=', _ => .ok (.compare .eq, 1)
  | '!', '=' :: _ => .ok (.compare .ne, 2)
  | '<', '=' :: _ => .ok (.compare .le, 2)
  | '<', _ => .ok (.compare .lt, 1)
  | '>', '=' :: _ => .ok (.compare .ge, 2)
  | '>', _ => .ok (.compare .gt, 1)
  | '(', _ => .ok (.openParen, 1)
  | ')', _ => .ok (.closeParen, 1)
  | '[', _ => .ok (.openBracket, 1)
  | ']', _ => .ok (.closeBracket, 1)
  | ',', _ => .ok (.comma, 1)
  | '@', _ => .ok (.atSign, 1)
  | ':', ':' :: _ => .ok (.axisMark, 2)
  | '.', '.' :: _ => .ok (.twoDots, 2)
  | '"', _ => literalToken '"' cs
  | '\'', _ => literalToken '\'' cs
  | '*', _ => .ok (starToken behindOperand cs)
  | '$', _ =>
    match leadingQName? cs with
    | some (test, n) => .ok (.variable test.render, n + 1)
    | none => .error .missingVariableName
  | _, _ =>
    -- a point starts a number if a digit follows, and is the current node otherwise
    if c.isDigit || (c = '.' && (cs.head?.map Char.isDigit).getD false) then
      .ok (numberToken (c :: cs))
    else if c = '.' then .ok (.dot, 1)
    else
      match leadingQName? (c :: cs) with
      | some (test, n) => .ok (nameToken behindOperand test, n)
      | none => .error (.unexpectedCharacter c)

/-- The tokens of a text that starts at a byte offset. The first `skip` characters belong to a token
already read; `behindOperand` tells whether an operand has just ended. -/
def tokensFrom (behindOperand : Bool) : Nat → Nat → List Char →
    Except SyntaxError (List (Nat × Token))
  | _, _, [] => .ok []
  | skip + 1, offset, c :: cs => tokensFrom behindOperand skip (offset + c.utf8Size) cs
  | 0, offset, c :: cs =>
    if Text.isBlank c then tokensFrom behindOperand 0 (offset + c.utf8Size) cs
    else
      match Token.scan behindOperand c cs with
      | .error fault => .error ⟨offset, fault⟩
      | .ok (token, n) => do
        let later ← tokensFrom token.endsOperand (n - 1) (offset + c.utf8Size) cs
        return (offset, token) :: later

/-- The tokens of an expression with their byte offsets. -/
def tokens (source : List Char) : Except SyntaxError (List (Nat × Token)) :=
  tokensFrom false 0 0 source

end XmlAudit.XPath
