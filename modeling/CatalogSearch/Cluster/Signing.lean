import CatalogSearch.Digest.Hmac
import CatalogSearch.Failure
import CatalogSearch.Keyed
import CatalogSearch.Text.Blank
import CatalogSearch.Text.Quoted
import CatalogSearch.Time.Timestamp

/-!
# Request signing

Requests to a managed cluster carry a signature, version 4, for the service `es`: a keyed digest
of the canonical form of the request, under a key that is derived from the secret, the day, the
region and the service.
-/
namespace CatalogSearch.Cluster

abbrev Environment : Type := List (String × String)

def Environment.get? (env : Environment) (name : String) : Option String :=
  Keyed.find? name env

structure Credentials where
  accessKeyId : String
  secretAccessKey : String
  sessionToken : Option String
  deriving DecidableEq, Repr

namespace Credentials

/-- An environment variable that must be set. -/
def required (env : Environment) (name : String) : Except Failure String :=
  match env.get? name with
  | some value => .ok value
  | none =>
    .error (.context s!"{name} environment variable not set"
      (.message "environment variable not found"))

def ofEnvironment (env : Environment) : Except Failure Credentials := do
  let key ← required env "OPENSEARCH_ACCESS_KEY"
  let secret ← required env "OPENSEARCH_SECRET_KEY"
  return ⟨key, secret, env.get? "OPENSEARCH_SESSION_TOKEN"⟩

/-- Credentials as a log may show them: the secret and the token stay hidden. -/
def describe (c : Credentials) : String :=
  "AwsCredentials \x7b access_key_id: " ++ Text.quoted c.accessKeyId ++ ", .. \x7d"

end Credentials

def service : String := "es"

/-- A request as its signature sees it. -/
structure SigningRequest where
  method : String
  /-- The host, with its port if that is sent. -/
  host : String
  /-- The path with every segment encoded. -/
  path : String
  query : String
  body : List UInt8

/-- A signature and what it was made from. -/
structure Signature where
  accessKeyId : String
  day : String
  region : String
  signedHeaders : String
  payloadDigest : String
  time : String
  sessionToken : Option String
  value : String
  deriving DecidableEq, Repr

namespace Signature

/-- The day of a number of seconds since the first of January 1970. -/
def dayText (epoch : Int) : String :=
  let date := Time.Date.ofDays (epoch / 86400)
  Time.yearText date.year ++ Text.padded 2 date.month ++ Text.padded 2 date.day

def timeText (epoch : Int) : String :=
  let second := (epoch % 86400).toNat
  dayText epoch ++ "T" ++ Text.padded 2 (second / 3600) ++ Text.padded 2 (second / 60 % 60) ++
    Text.padded 2 (second % 60) ++ "Z"

/-- The path with every segment encoded once more; an empty one is a slash. -/
def canonicalPath (path : String) : String :=
  if path.isEmpty then "/"
  else String.intercalate "/"
    ((Text.pieces (· = '/') path.toList).map fun s => Text.uriEncode (String.ofList s))

/-- What the signature is valid for. -/
def scopeOf (day region : String) : String :=
  s!"{day}/{region}/{service}/aws4_request"

def derivedKey (secret day region service : String) : List UInt8 :=
  let ofDay := Digest.hmac (Text.utf8 ("AWS4" ++ secret)) (Text.utf8 day)
  let ofRegion := Digest.hmac ofDay (Text.utf8 region)
  let ofService := Digest.hmac ofRegion (Text.utf8 service)
  Digest.hmac ofService (Text.utf8 "aws4_request")

/-- The headers that are signed, in ascending order of their names. -/
def headersToSign (creds : Credentials) (host digest time : String) : List (String × String) :=
  [("host", host), ("x-amz-content-sha256", digest), ("x-amz-date", time)] ++
    (match creds.sessionToken with
      | some token => [("x-amz-security-token", token)]
      | none => [])

/-- Sign a request at a number of seconds since the first of January 1970. -/
def sign (creds : Credentials) (region : String) (request : SigningRequest) (epoch : Int) :
    Signature :=
  let day := dayText epoch
  let time := timeText epoch
  let digest := Digest.sha256Hex request.body
  let headers := headersToSign creds request.host digest time
  let names := String.intercalate ";" (headers.map (·.1))
  let lines := String.join (headers.map fun h => h.1 ++ ":" ++ Text.trim h.2 ++ "\n")
  let canonical := String.intercalate "\n"
    [request.method, canonicalPath request.path, request.query, lines, names, digest]
  let toSign := String.intercalate "\n"
    ["AWS4-HMAC-SHA256", time, scopeOf day region, Digest.sha256Hex (Text.utf8 canonical)]
  let key := derivedKey creds.secretAccessKey day region service
  { accessKeyId := creds.accessKeyId, day, region, signedHeaders := names, payloadDigest := digest,
    time, sessionToken := creds.sessionToken
    value := Text.lowerHex (Digest.hmac key (Text.utf8 toSign)) }

def credentialWithoutDay (s : Signature) : String :=
  s!"{s.accessKeyId}/{s.region}/{service}/aws4_request"

/-- The header that carries the signature. -/
def authorization (s : Signature) : String :=
  s!"AWS4-HMAC-SHA256 Credential={s.accessKeyId}/{scopeOf s.day s.region}, " ++
    s!"SignedHeaders={s.signedHeaders}, Signature={s.value}"

def headers (s : Signature) : List (String × String) :=
  [("Authorization", s.authorization), ("x-amz-content-sha256", s.payloadDigest),
    ("x-amz-date", s.time)] ++
    (match s.sessionToken with
      | some token => [("x-amz-security-token", token)]
      | none => [])

end Signature

end CatalogSearch.Cluster
