import CatalogSearch.Cluster.Signing
import CatalogSearch.Cluster.Url
import CatalogSearch.Log.Entry
import CatalogSearch.Text.Base64

/-!
# Exchanges

Requests and replies between this program and a cluster. The replies that a cluster is going to
give are laid out in advance, in the order of the requests; every request that leaves is kept, so
that an exchange can be judged by what was sent as well as by how it ended.
-/
namespace CatalogSearch.Cluster

inductive Method where
  | head | get | put | post | delete
  deriving DecidableEq, Repr

def Method.name : Method → String
  | .head => "HEAD"
  | .get => "GET"
  | .put => "PUT"
  | .post => "POST"
  | .delete => "DELETE"

/-- How a request says who sends it. -/
inductive Authorization where
  | anonymous
  | basic (user password : String)
  | signed (signature : Signature)
  deriving DecidableEq, Repr

def basicHeader (user password : String) : String :=
  "Basic " ++ Text.base64 (Text.utf8 (user ++ ":" ++ password))

inductive ContentType where
  | json
  /-- One JSON value a line. -/
  | lines
  deriving DecidableEq, Repr

def ContentType.name : ContentType → String
  | .json => "application/json"
  | .lines => "application/x-ndjson"

structure Request where
  method : Method
  url : Url
  /-- The body and its form; none if the body is empty. -/
  body : Option (ContentType × String) := none
  authorization : Authorization := .anonymous
  deriving Repr

/-- What becomes of a request. -/
inductive Reply where
  | answer (status : Nat) (text : String)
  /-- The connection breaks before any answer. -/
  | dropped
  | timedOut
  /-- The connection breaks inside the answer. -/
  | cut
  /-- The rest of the answer does not come in time. -/
  | stalled
  deriving DecidableEq, Repr, Inhabited

/-- The replies to come and the traces of those that came. -/
structure Link where
  replies : List Reply := []
  /-- The reply when none is left. -/
  otherwise : Reply := .answer 500 "script exhausted"
  /-- The requests that left, first to last. -/
  sent : List Request := []
  log : List Log.Entry := []
  /-- The clock, in seconds since the first of January 1970. -/
  clock : Int := 0
  deriving Inhabited, Repr

/-- An exchange with a cluster; what was sent stays sent if it fails. -/
abbrev Exchange (α : Type) : Type := ExceptT Failure (StateM Link) α

namespace Exchange

def log (entry : Log.Entry) : Exchange Unit :=
  modify fun link => { link with log := link.log ++ [entry] }

def isHeaderChar (c : Char) : Bool :=
  c = '\t' || (32 ≤ c.toNat && c.toNat ≠ 127)

/-- Why a request cannot leave at all. -/
def unsendable? (request : Request) : Option String :=
  let forUrl := s!"builder error for url ({request.url.text})"
  if request.url.host.isNone then some forUrl
  else
    let badHeader := match request.authorization with
      | .signed signature => signature.headers.any fun h => !h.2.toList.all isHeaderChar
      | _ => false
    if badHeader then some "builder error"
    else if request.url.scheme ≠ "http" && request.url.scheme ≠ "https" then some forUrl
    else none

/-- Does an answer come without a text, whatever stands behind it? -/
def isBodiless (method : Method) (status : Nat) : Bool :=
  method = .head || status = 204 || status = 304

/-- What a reply comes to: a status and a text, or a failure of the transport. -/
def outcome (request : Request) : Reply → Except Failure (Nat × String)
  | .answer status text => .ok (status, if isBodiless request.method status then "" else text)
  | .dropped => .error (.unavailable s!"error sending request for url ({request.url.text})")
  | .timedOut => .error (.timeout s!"error sending request for url ({request.url.text})")
  | .cut => .error (.unavailable "error decoding response body")
  | .stalled => .error (.timeout "error decoding response body")

def send (request : Request) : Exchange (Nat × String) :=
  match unsendable? request with
  | some text => throw (.unavailable text)
  | none => do
    let link ← get
    set { link with replies := link.replies.tail, sent := link.sent ++ [request] }
    match outcome request (link.replies.headD link.otherwise) with
    | .ok answer => return answer
    | .error failure => throw failure

end Exchange

end CatalogSearch.Cluster
