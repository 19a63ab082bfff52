import XmlAudit.Text.Blank
import XmlAudit.Url.Basic

/-!
# Reading addresses

* `Url.parse`: the address that a text spells.
* `Url.join`: the address that a text spells, seen from another one.
-/

namespace XmlAudit.Url

/-- The characters before the first one of a kind, and those after it if there is one. -/
def cut (isMark : Char → Bool) (cs : List Char) : List Char × Option (List Char) :=
  match cs.dropWhile (!isMark ·) with
  | [] => (cs.takeWhile (!isMark ·), none)
  | _ :: rest => (cs.takeWhile (!isMark ·), some rest)

/-- A space or a control character of the first block. -/
def isEdge (c : Char) : Bool := c.toNat ≤ 0x20

/-- A text without what is never part of an address: spaces at its ends, tabs and line ends. -/
def clean (s : String) : List Char :=
  let inner := ((s.toList.dropWhile isEdge).reverse.dropWhile isEdge).reverse
  inner.filter fun c => !(c = '\t' || c = '\n' || c = '\r')

/-- A character of a scheme after the first one. -/
def isSchemeChar (c : Char) : Bool := c.isAlphanum || c = '+' || c = '-' || c = '.'

/-- The scheme with which a text starts, and what follows its colon. -/
def scheme? (cs : List Char) : Option (String × List Char) :=
  match cs with
  | c :: _ =>
    let name := cs.takeWhile isSchemeChar
    match cs.dropWhile isSchemeChar with
    | ':' :: rest => if c.isAlpha then some (String.ofList (name.map Char.toLower), rest) else none
    | _ => none
  | [] => none

/-- What separates segments; addresses with domain names take a backslash for a slash. -/
def isSlash (special : Bool) (c : Char) : Bool := c = '/' || (special && c = '\\')

/-- A segment that stands for its own directory. -/
def isHere (s : List Char) : Bool :=
  let s := String.ofList (s.map Char.toLower)
  s = "." || s = "%2e"

/-- A segment that stands for the directory above. -/
def isUp (s : List Char) : Bool :=
  [".%2e", "%2e.", "%2e%2e", ".."].contains (String.ofList (s.map Char.toLower))

/-- The letter of a drive: an ASCII letter and a colon or a bar. -/
def isDrive : List Char → Bool
  | [c, mark] => c.isAlpha && (mark = ':' || mark = '|')
  | _ => false

/-- The segments without the last one, unless that is the letter of a drive. -/
def above (done : List String) : List String :=
  if done.getLast?.any fun s => isDrive s.toList then done else done.dropLast

/-- The segments after `done`, the dots among them followed. -/
def walk (done : List String) : List (List Char) → List String
  | [] => done
  | s :: rest =>
    if isUp s then walk (above done ++ if rest.isEmpty then [""] else []) rest
    else if isHere s then walk (done ++ if rest.isEmpty then [""] else []) rest
    else walk (done ++ [String.ofList (percentEncode inPath s)]) rest

/-- The parts of a text between slashes; `part` holds the one being read, in reverse. -/
def splitSlashes (special : Bool) (part : List Char) : List Char → List (List Char)
  | [] => [part.reverse]
  | c :: cs =>
    if isSlash special c then part.reverse :: splitSlashes special [] cs
    else splitSlashes special (c :: part) cs

/-- The path that a text spells after the segments `done`. -/
def walkText (special : Bool) (done : List String) (cs : List Char) : Route :=
  .segments (walk done (splitSlashes special [] cs))

/-- The path that a text spells on its own, which is empty only where there are no domain names. -/
def absoluteRoute (special : Bool) (cs : List Char) : Route :=
  match cs with
  | [] => .segments (if special then [""] else [])
  | c :: rest => if isSlash special c then walkText special [] rest else walkText special [] cs

/-- The number that digits spell, if it is not the usual one of the scheme. -/
def numberOf (scheme : String) : Option (List Char) → Except Fault (Option Nat)
  | none | some [] => .ok none
  | some cs =>
    let n := cs.foldl (fun n c => n * 10 + (c.toNat - 48)) 0
    if !cs.all Char.isDigit || n ≥ 65536 then .error .badNumber
    else .ok (if defaultNumber? scheme = some n then none else some n)

/-- A host and the number after its colon; colons in brackets are part of the host. -/
def cutNumber (inside : Bool) (host : List Char) : List Char → List Char × Option (List Char)
  | [] => (host.reverse, none)
  | c :: cs =>
    if c = ':' ∧ ¬inside then (host.reverse, some cs)
    else cutNumber (if c = '[' then true else if c = ']' then false else inside) (c :: host) cs

/-- The user name and the password before the last `@`, and the rest. -/
def cutUserinfo (cs : List Char) : Option (List Char) × List Char :=
  match cs.reverse.dropWhile (· ≠ '@') with
  | _ :: before => (some before.reverse, (cs.reverse.takeWhile (· ≠ '@')).reverse)
  | [] => (none, cs)

/-- Who asks, as the text before `@` spells it. -/
def Userinfo.ofChars (cs : List Char) : Userinfo :=
  let (user, password) := cut (· = ':') cs
  let encode (s : List Char) : String := String.ofList (percentEncode inUserinfo s)
  ⟨encode user, encode (password.getD [])⟩

/-- The host of a scheme, where some schemes may lack one. -/
def hostOf (scheme : String) (cs : List Char) : Except Fault (Option Host) :=
  if isSpecial scheme then (Host.parse cs).map some else Host.parseOther cs

/-- The address of a scheme whose text goes on with a host. -/
def withAuthority (scheme : String) (cs : List Char) : Except Fault Url := do
  let isEnd := isSlash (isSpecial scheme)
  let rest := cs.dropWhile (!isEnd ·)
  let (user, hostNumber) := cutUserinfo (cs.takeWhile (!isEnd ·))
  let (hostText, numberText) := cutNumber false [] hostNumber
  let host ← hostOf scheme hostText
  if host.isNone ∧ (user.isSome ∨ numberText.isSome) then throw .emptyHost
  else
    let number ← numberOf scheme numberText
    return ⟨scheme, (user.map Userinfo.ofChars).getD ⟨"", ""⟩, host, number,
      absoluteRoute (isSpecial scheme) rest, none, none⟩

/-- The address of a file without a host. -/
def ofRoute (route : Route) : Url := ⟨"file", ⟨"", ""⟩, none, none, route, none, none⟩

/-- The host that the address of a file names, if any other than `localhost`. -/
def fileHost (cs : List Char) : Except Fault (Option Host) :=
  if cs.isEmpty then .ok none
  else (Host.parse cs).map fun h => if h = .domain "localhost" then none else some h

/-- The segments of the path of a file, and whether the first one is the letter of a drive, which is
then written with a colon. -/
def fileSegments (cs : List Char) : List String × Bool :=
  let ss := walk [] (splitSlashes true [] (if cs.head?.any (isSlash true) then cs.drop 1 else cs))
  match ss with
  | s :: rest =>
    if isDrive s.toList then (String.ofList (s.toList.take 1 ++ [':']) :: rest, true)
    else
      let kept := ss.dropWhile (· = "")
      (if kept.isEmpty then [""] else kept, false)
  | [] => ([""], false)

/-- The address of a file with a path. A host counts for nothing in front of the letter of a
drive. -/
def withFilePath (host : Option Host) (cs : List Char) : Url :=
  let (segments, onDrive) := fileSegments cs
  { ofRoute (.segments segments) with host := if onDrive then none else host }

/-- The address of a file, which has a host only if one other than `localhost` is named. -/
def ofFile (base : Option Url) (cs : List Char) : Except Fault Url := do
  let slashes := (cs.takeWhile (isSlash true)).length
  if slashes ≥ 2 then
    let rest := cs.drop 2
    let hostText := rest.takeWhile (!isSlash true ·)
    if isDrive hostText then return withFilePath none rest
    else return withFilePath (← fileHost hostText) (rest.dropWhile (!isSlash true ·))
  else
    match base.filter (·.scheme = "file") with
    | none => return withFilePath none cs
    | some b =>
      let route := if slashes = 1 then absoluteRoute true cs
        else walkText true b.segments.dropLast cs
      return { b with route := route, query := none, fragment := none }

/-- The address that a text without a scheme spells, seen from another one. Two slashes go before a
host, and so do more of them, unless they are all plain ones. -/
def relative (base : Url) (cs : List Char) : Except Fault Url :=
  let slashes := (cs.takeWhile (isSlash true)).length
  if slashes ≥ 2 then
    withAuthority base.scheme (cs.drop (if cs.take 2 = ['/', '/'] then 2 else slashes))
  else
    let special := isSpecial base.scheme
    let route := if slashes = 1 then walkText special [] (cs.drop 1)
      else walkText special base.segments.dropLast cs
    .ok { base with route := route, query := none, fragment := none }

/-- The address of a scheme and of what follows it, seen from another one if there is one. -/
def ofScheme (base : Option Url) (scheme : String) (cs : List Char) : Except Fault Url :=
  if scheme = "file" then ofFile base cs
  else if isSpecial scheme then
    let slashes := (cs.takeWhile (isSlash true)).length
    match base.filter fun b => b.scheme = scheme ∧ slashes < 2 with
    | some b => if cs.isEmpty then .ok { b with fragment := none } else relative b cs
    | none => withAuthority scheme (cs.drop slashes)
  else
    let plain (route : Route) : Url := { ofRoute route with scheme := scheme }
    match cs with
    | '/' :: '/' :: rest => withAuthority scheme rest
    | '/' :: _ => .ok (plain (absoluteRoute false cs))
    | _ => .ok (plain (.flat (String.ofList (percentEncode isControl cs))))

/-- The address that a text spells before its query and fragment, `bare` telling that it has a
fragment and nothing else. A text without any of them keeps the path and the query of the other
address. -/
def resolve (base : Option Url) (cs : List Char) (bare : Bool) : Except Fault Url :=
  match scheme? cs with
  | some (scheme, rest) => ofScheme base scheme rest
  | none => do
    let b ← orFault .noBase base
    match b.route with
    | .flat _ => if bare then return { b with fragment := none } else throw .flatBase
    | .segments _ =>
      if cs.isEmpty then return { b with fragment := none }
      else if b.scheme = "file" then ofFile base cs
      else relative b cs

/-- The address that a text spells, seen from another one if there is one. -/
def read (base : Option Url) (s : String) : Except Fault Url := do
  let (body, fragment) := cut (· = '#') (clean s)
  let (head, query) := cut (· = '?') body
  let u ← resolve base head (body.isEmpty && fragment.isSome)
  let encode (encoded : Char → Bool) (cs : List Char) : String :=
    String.ofList (percentEncode encoded cs)
  return { u with
    query := (query.map (encode (inQuery (isSpecial u.scheme)))).or u.query
    fragment := fragment.map (encode inFragment) }

/-- The address that a text spells. -/
def parse (s : String) : Except Fault Url := read none s

/-- The address that a text spells, seen from `base`. -/
def join (base : Url) (s : String) : Except Fault Url := read (some base) s

end XmlAudit.Url
