import XmlAudit.Files.Path
import XmlAudit.Text.Letters
import XmlAudit.Url.Parse

/-!
# Where copies of remote files are kept

The copies form the same tree as the addresses, so that a relative reference between two of them
leads to the same file on disk as it does over the net.

* `cachePath`: the place of the copy of an address, below a directory of the cache.
* `fingerprint`: a number of 64 bits that tells apart addresses which share a path.
-/

namespace XmlAudit.Remote

/-- The fingerprint of octets: from a fixed start, each octet is mixed in and the sum multiplied by
a prime, modulo 2 ^ 64. -/
def fingerprintOf (bytes : List UInt8) : UInt64 :=
  bytes.foldl (fun h b => (h ^^^ b.toUInt64) * 0x100000001b3) 0xcbf29ce484222325

/-- The fingerprint of an address in sixteen hexadecimal digits. -/
def fingerprint (url : String) : String :=
  let digits := Nat.toDigits 16 (fingerprintOf (Text.Utf8.encode url)).toNat
  String.ofList (List.replicate (16 - digits.length) '0' ++ digits)

/-- A character that a name on disk keeps. -/
def isKept (c : Char) : Bool := Text.isAsciiAlphanumeric c || c = '.' || c = '-' || c = '_'

/-- A segment as a name on disk: other characters become underscores, and so do dots on their
own. -/
def diskName (segment : String) : String :=
  let cleaned := segment.toList.map fun c => if isKept c then c else '_'
  String.ofList (if cleaned.all (· = '.') then cleaned.map (fun _ => '_') else cleaned)

/-- The host and the number after it as one name. -/
def hostName (u : Url) (host : Url.Host) : String :=
  diskName (host.render ++ (u.number.map fun p => "_" ++ toString p).getD "")

/-- Names on disk of which the last one is not empty, given how a query marks it. -/
def withLastName (url : String) (hasQuery : Bool) (names : List String) : List String :=
  match names.getLast? with
  | none | some "" => names.dropLast ++ [fingerprint url ++ "-index"]
  | some last =>
    if hasQuery then names.dropLast ++ [fingerprint url ++ "-" ++ last] else names

/-- The names on disk that lead to the copy of an address. -/
def cacheNames (url : String) : List String :=
  match Url.parse url with
  | .ok u =>
    match u.host with
    | some host =>
      hostName u host ::
        (withLastName url u.query.isSome (u.segments.map diskName)).filter (· ≠ "")
    | none => [fingerprint url ++ "-artifact"]
  | .error _ => [fingerprint url ++ "-artifact"]

/-- The place of the copy of an address below a directory of the cache. -/
def cachePath (url : String) : Files.Path := ⟨cacheNames url⟩

end XmlAudit.Remote
