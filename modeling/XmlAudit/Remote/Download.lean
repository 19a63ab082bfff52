import XmlAudit.Config.Basic
import XmlAudit.Error

/-!
# Downloads

* `DownloadPolicy`: how often a download is tried again, and after how long.
* `AttemptFault`: why an attempt fails, and whether another one may go better.
* `download`: the outcome of trying, with the attempts made and the delays between them.
* `answerOf`: what a status of the protocol makes of an attempt.
-/

namespace XmlAudit.Remote

/-- How long a request may take, how often it is repeated, and after how long. -/
structure DownloadPolicy where
  timeoutSeconds : UInt64
  retryAttempts : UInt32
  retryDelayMs : UInt64
  maxRetryDelayMs : UInt64
  userAgent : String
deriving DecidableEq, Repr

namespace DownloadPolicy

/-- The version of the program. -/
def programVersion : String := "0.1.0"

/-- The policy that settings of the network ask for. -/
def ofNetwork (n : NetworkSettings) : DownloadPolicy :=
  ⟨n.timeoutSeconds, n.retryAttempts, n.retryDelayMs, 30000,
    Config.programName ++ "/" ++ programVersion⟩

/-- A number held below the end of 64 bits. -/
def saturate (n : Nat) : Nat := min n (UInt64.size - 1)

/-- A power of two held below the end of 64 bits. -/
def powerOfTwo (k : Nat) : Nat := if k < 64 then Nat.pow 2 k else UInt64.size - 1

/-- How long to wait after the attempt with a number, counted from 0, in milliseconds: twice as long
each time, up to a bound. -/
def delay (p : DownloadPolicy) (k : Nat) : Nat :=
  min (saturate (p.retryDelayMs.toNat * powerOfTwo k)) p.maxRetryDelayMs.toNat

end DownloadPolicy

/-- Why the client gives up on a request, as far as it tells. -/
structure ClientFault where
  details : String
  isTimeout : Bool
  isConnect : Bool
  isRequest : Bool
deriving DecidableEq, Repr

/-- The error of a fault of the client. -/
def ClientFault.toError (f : ClientFault) : AuditError := .http f.details

/-- Why an attempt fails. -/
inductive AttemptFault where
  | client (fault : ClientFault)
  | timeout (url : String) (seconds : Nat)
  | httpStatus (url : String) (status : Nat) (reason : String)
deriving DecidableEq, Repr

namespace AttemptFault

/-- The error of an attempt that fails. -/
def toError : AttemptFault → AuditError
  | client f => f.toError
  | timeout url seconds => .timeout url seconds
  | httpStatus url status reason => .httpStatus url status reason

/-- Whether another attempt may go better: connections that fail, time limits and faults of the
server. -/
def isTransient : AttemptFault → Bool
  | client f => f.isTimeout || f.isConnect || f.isRequest
  | timeout _ _ => true
  | httpStatus _ status _ => 500 ≤ status && status < 600

end AttemptFault

/-- A response: its body, unless that breaks off. -/
abbrev Response (α : Type) := Except ClientFault α

/-- What comes of an attempt behind which there is no other one. The body of a response is only read
then, and once. -/
def outcomeOf : Except AttemptFault (Response α) → Except AuditError α
  | .ok response => response.mapError ClientFault.toError
  | .error f => .error f.toError

/-- A download: its outcome, the number of attempts and the delays between them. -/
structure Download (α : Type) where
  outcome : Except AuditError α
  attempts : Nat
  delays : List Nat

/-- Attempts from number `k` on, of which `left` may follow the first. -/
def attemptsFrom (p : DownloadPolicy) (attempt : Nat → Except AttemptFault (Response α)) :
    (left k : Nat) → Download α
  | 0, k => ⟨outcomeOf (attempt k), 1, []⟩
  | left + 1, k =>
    match attempt k with
    | .ok response => ⟨outcomeOf (.ok response), 1, []⟩
    | .error f =>
      if f.isTransient then
        let later := attemptsFrom p attempt left (k + 1)
        ⟨later.outcome, later.attempts + 1, p.delay k :: later.delays⟩
      else ⟨outcomeOf (.error f), 1, []⟩

/-- A download, given the outcome of each attempt, counted from 0. -/
def download (p : DownloadPolicy) (attempt : Nat → Except AttemptFault (Response α)) :
    Download α :=
  attemptsFrom p attempt p.retryAttempts.toNat 0

/-- The reason that goes with a status of the protocol. -/
def reasons : List (Nat × String) := [
  (100, "Continue"), (101, "Switching Protocols"), (102, "Processing"), (103, "Early Hints"),
  (200, "OK"), (201, "Created"), (202, "Accepted"), (203, "Non Authoritative Information"),
  (204, "No Content"), (205, "Reset Content"), (206, "Partial Content"), (207, "Multi-Status"),
  (208, "Already Reported"), (226, "IM Used"), (300, "Multiple Choices"),
  (301, "Moved Permanently"), (302, "Found"), (303, "See Other"), (304, "Not Modified"),
  (305, "Use Proxy"), (307, "Temporary Redirect"), (308, "Permanent Redirect"),
  (400, "Bad Request"), (401, "Unauthorized"), (402, "Payment Required"), (403, "Forbidden"),
  (404, "Not Found"), (405, "Method Not Allowed"), (406, "Not Acceptable"),
  (407, "Proxy Authentication Required"), (408, "Request Timeout"), (409, "Conflict"),
  (410, "Gone"), (411, "Length Required"), (412, "Precondition Failed"),
  (413, "Payload Too Large"), (414, "URI Too Long"), (415, "Unsupported Media Type"),
  (416, "Range Not Satisfiable"), (417, "Expectation Failed"), (418, "I'm a teapot"),
  (421, "Misdirected Request"), (422, "Unprocessable Entity"), (423, "Locked"),
  (424, "Failed Dependency"), (425, "Too Early"), (426, "Upgrade Required"),
  (428, "Precondition Required"), (429, "Too Many Requests"),
  (431, "Request Header Fields Too Large"), (451, "Unavailable For Legal Reasons"),
  (500, "Internal Server Error"), (501, "Not Implemented"), (502, "Bad Gateway"),
  (503, "Service Unavailable"), (504, "Gateway Timeout"), (505, "HTTP Version Not Supported"),
  (506, "Variant Also Negotiates"), (507, "Insufficient Storage"), (508, "Loop Detected"),
  (510, "Not Extended"), (511, "Network Authentication Required")]

/-- What an answer with a status and a body makes of an attempt: only success statuses will do. -/
def answerOf (url : String) (status : Nat) (body : Response α) :
    Except AttemptFault (Response α) :=
  if 200 ≤ status ∧ status < 300 then .ok body
  else .error (.httpStatus url status ((reasons.lookup status).getD "Unknown"))

/-- The fault of an attempt at an address that cannot be reached. -/
def unreachable (url : String) : AttemptFault :=
  .client ⟨"error sending request for url (" ++ url ++ ")", false, true, true⟩

end XmlAudit.Remote
