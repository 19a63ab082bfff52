import XmlAudit.Url.Name
import XmlAudit.Url.Percent

/-!
# Hosts

* `Host.parse`: a domain name in lower case, or an address of four or of sixteen octets.
* `Host.parseOther`: the host of an address whose scheme knows no domain names.
* `Host.render`: the host as written in an address.
* `Fault`: why a text is no address, with its wording.
-/

namespace XmlAudit.Url

/-- Why a text is no address. -/
inductive Fault where
  | emptyHost
  | badName
  | badNumber
  | badIpv4
  | badIpv6
  | badHostCharacter
  | noBase
  | flatBase
deriving DecidableEq, Repr

/-- How a fault is worded. -/
def Fault.message : Fault → String
  | emptyHost => "empty host"
  | badName => "invalid international domain name"
  | badNumber => "invalid port number"
  | badIpv4 => "invalid IPv4 address"
  | badIpv6 => "invalid IPv6 address"
  | badHostCharacter => "invalid domain character"
  | noBase => "relative URL without a base"
  | flatBase => "relative URL with a cannot-be-a-base base"

/-- A value, or the fault for the lack of one. -/
def orFault (f : Fault) : Option α → Except Fault α
  | some a => .ok a
  | none => .error f

/-- A host. -/
inductive Host where
  | domain (name : String)
  | ipv4 (address : Nat)
  | ipv6 (groups : List Nat)
deriving DecidableEq, Repr

namespace Host

/-- A character that no host contains. -/
def isForbidden (c : Char) : Bool := "\x00\t\n\r #/:<>?@[\\]^|".toList.contains c

/-- A character that no domain name contains. -/
def isForbiddenInDomain (c : Char) : Bool := isForbidden c || isControl c || c = '%'

/-- A number written in digits of some base, if all characters are such digits. -/
def ofDigits? (base : Nat) (cs : List Char) : Option Nat :=
  cs.foldlM (fun n c => do
    let v ← hexValue? c
    if v < base then some (n * base + v) else none) 0

/-- A part of a four-octet address: in base 16 after `0x`, in base 8 after another `0`. -/
def ipv4Number? : List Char → Option Nat
  | [] => none
  | '0' :: 'x' :: cs | '0' :: 'X' :: cs => ofDigits? 16 cs
  | '0' :: c :: cs => ofDigits? 8 (c :: cs)
  | cs => ofDigits? 10 cs

/-- The parts of a name between its dots, without an empty last one. -/
def labels (name : List Char) : List (List Char) :=
  let parts := Text.splitFrom '.' [] name
  if parts.length > 1 ∧ parts.getLast? = some [] then parts.dropLast else parts

/-- Whether a name must be an address of four octets: its last label is a number. -/
def endsInNumber (name : List Char) : Bool :=
  match (labels name).getLast? with
  | some last => (!last.isEmpty && last.all Char.isDigit) || (ipv4Number? last).isSome
  | none => false

/-- An address of four octets, of which the last number fills the rest. -/
def ipv4? (name : List Char) : Option Nat := do
  let numbers ← (labels name).mapM ipv4Number?
  let last ← numbers.getLast?
  let others := numbers.dropLast
  if others.length ≤ 3 ∧ others.all (· ≤ 255) ∧ last < Nat.pow 256 (4 - others.length) then
    some (others.foldr (fun n (sum, weight) => (sum + n * weight, weight * 256))
      (last, Nat.pow 256 (4 - others.length))).1
  else none

/-- Two groups of a sixteen-octet address written as four octets. -/
def dotted? (cs : List Char) : Option (List Nat) := do
  let parts := Text.splitFrom '.' [] cs
  let octets ← parts.mapM fun p =>
    if p.isEmpty || (p.length > 1 && p.head? = some '0') then none else ofDigits? 10 p
  match octets with
  | [a, b, c, d] =>
    if [a, b, c, d].all (· ≤ 255) then some [a * 256 + b, c * 256 + d] else none
  | _ => none

/-- A group of a sixteen-octet address. -/
def group? (cs : List Char) : Option Nat :=
  if cs.isEmpty || cs.length > 4 then none else ofDigits? 16 cs

/-- Groups between colons, of which the last may be written as four octets. -/
def groups? (cs : List Char) : Option (List Nat) :=
  if cs.isEmpty then some []
  else
    let parts := Text.splitFrom ':' [] cs
    match parts.getLast? with
    | some last =>
      if last.contains '.' then do
        return (← parts.dropLast.mapM group?) ++ (← dotted? last)
      else parts.mapM group?
    | none => none

/-- The characters before and after the first double colon. -/
def cutDoubleColon (before : List Char) : List Char → Option (List Char × List Char)
  | ':' :: ':' :: cs => some (before.reverse, cs)
  | c :: cs => cutDoubleColon (c :: before) cs
  | [] => none

/-- An address of sixteen octets in eight groups; a double colon fills up with zeros. -/
def ipv6? (cs : List Char) : Option (List Nat) := do
  match cutDoubleColon [] cs with
  | none =>
    let gs ← groups? cs
    if gs.length = 8 then some gs else none
  | some (left, right) =>
    if left.contains '.' then none
    else
      let l ← groups? left
      let r ← groups? right
      if l.length + r.length ≤ 7 then
        some (l ++ List.replicate (8 - l.length - r.length) 0 ++ r)
      else none

/-- The address that a text in brackets spells. -/
def bracketed (cs : List Char) : Except Fault Host :=
  orFault .badIpv6
    (if cs.getLast? = some ']' then (ipv6? (cs.drop 1).dropLast).map ipv6 else none)

/-- The host of an address whose scheme knows domain names. -/
def parse (cs : List Char) : Except Fault Host :=
  if cs.head? = some '[' then bracketed cs
  else do
    let name ← orFault .badName
      (Name.toAscii? isForbiddenInDomain (Text.Utf8.decodeLossy (percentDecode cs)))
    if name.isEmpty then throw .emptyHost
    else if endsInNumber name then orFault .badIpv4 ((ipv4? name).map ipv4)
    else return domain (String.ofList name)

/-- The host of an address of another scheme, where there may be none. -/
def parseOther (cs : List Char) : Except Fault (Option Host) :=
  if cs.head? = some '[' then (bracketed cs).map some
  else if cs.isEmpty then .ok none
  else if cs.any isForbidden then .error .badHostCharacter
  else .ok (some (domain (String.ofList (percentEncode isControl cs))))

/-- The length of the run of zeros at the start. -/
def zeros (gs : List Nat) : Nat := (gs.takeWhile (· = 0)).length

/-- Where the first of the longest runs of zeros starts, and its length. -/
def longestZeros (gs : List Nat) : Nat × Nat :=
  (List.range gs.length).foldl
    (fun best i => if zeros (gs.drop i) > best.2 then (i, zeros (gs.drop i)) else best) (0, 0)

/-- Groups between colons. -/
def renderGroups (gs : List Nat) : List Char :=
  [':'].intercalate (gs.map (Nat.toDigits 16))

/-- The groups of an address, with the longest run of at least two zeros left out. -/
def renderIpv6 (gs : List Nat) : List Char :=
  let (start, count) := longestZeros gs
  if count < 2 then renderGroups gs
  else renderGroups (gs.take start) ++ [':', ':'] ++ renderGroups (gs.drop (start + count))

/-- The host as written. -/
def render : Host → String
  | domain name => name
  | ipv4 a => ".".intercalate ([a / 0x1000000, a / 0x10000 % 256, a / 0x100 % 256, a % 256].map toString)
  | ipv6 gs => String.ofList ('[' :: renderIpv6 gs ++ [']'])

end Host

end XmlAudit.Url
