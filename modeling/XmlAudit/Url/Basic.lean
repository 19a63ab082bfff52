import XmlAudit.Url.Host

/-!
# Addresses of resources

* `Url`: an address in its parts.
* `Url.render`: the address as written.
-/

namespace XmlAudit

namespace Url

/-- The path of an address: segments that each follow a slash, or a text of its own. -/
inductive Route where
  | segments (ss : List String)
  | flat (text : String)
deriving DecidableEq, Repr

/-- A path as written. -/
def Route.render : Route → String
  | segments ss => String.join (ss.map ("/" ++ ·))
  | flat text => text

/-- Who asks: a user name and a password, either of which may be empty. -/
structure Userinfo where
  user : String
  password : String
deriving DecidableEq, Repr

/-- How an address says who asks, if it does. -/
def Userinfo.render (u : Userinfo) : String :=
  if u.user = "" ∧ u.password = "" then ""
  else u.user ++ (if u.password = "" then "" else ":" ++ u.password) ++ "@"

end Url

/-- An address of a resource. The number after the host is given only where it differs from the
usual one of the scheme. -/
structure Url where
  scheme : String
  userinfo : Url.Userinfo
  host : Option Url.Host
  number : Option Nat
  route : Url.Route
  query : Option String
  fragment : Option String
deriving DecidableEq, Repr

namespace Url

/-- The usual number after the host, for a scheme. -/
def defaultNumber? (scheme : String) : Option Nat :=
  match scheme with
  | "http" | "ws" => some 80
  | "https" | "wss" => some 443
  | "ftp" => some 21
  | _ => none

/-- Whether the addresses of a scheme have domain names and segments. -/
def isSpecial (scheme : String) : Bool := (defaultNumber? scheme).isSome || scheme = "file"

variable (u : Url)

/-- Whether an address is fetched over the net. -/
def isWeb : Bool := u.scheme = "http" || u.scheme = "https"

/-- The segments of the path. -/
def segments : List String :=
  match u.route with
  | .segments ss => ss
  | .flat _ => []

/-- The host and what goes with it, as written. -/
def renderAuthority : String :=
  match u.host with
  | some h =>
    "//" ++ u.userinfo.render ++ h.render ++ (u.number.map fun p => ":" ++ toString p).getD ""
  | none =>
    if u.scheme = "file" then "//"
    else if u.segments.length > 1 ∧ u.segments.head? = some "" then "/." else ""

/-- The address as written. -/
def render : String :=
  u.scheme ++ ":" ++ u.renderAuthority ++ u.route.render ++
    (u.query.map ("?" ++ ·)).getD "" ++ (u.fragment.map ("#" ++ ·)).getD ""

end Url

end XmlAudit
