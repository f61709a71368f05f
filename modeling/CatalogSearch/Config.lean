import CatalogSearch.Failure
import CatalogSearch.Log.Entry
import CatalogSearch.Text.Blank
import CatalogSearch.Text.Quoted
import CatalogSearch.Time.Span
import CatalogSearch.Toml.Reader

/-!
# Configuration

What a configuration file says, with a default for everything but the path of the database. The
host of the index can be overridden from outside; the override fills in the way of signing in that
such a host expects, unless the file already names one.
-/
namespace CatalogSearch

structure IndexConfig where
  url : String := "https://localhost:9200"
  name : String := "datasets"
  username : Option String := none
  password : Option String := none
  /-- The region that requests are signed for; none means that they are not signed. -/
  awsRegion : Option String := none
  acceptInvalidCerts : Bool := false
  timeoutSecs : Nat := 30
  timeoutRetries : Nat := 3
  timeoutBackoffSecs : Double := Double.ofNat 2
  deriving Repr, Inhabited, DecidableEq

structure SyncConfig where
  perPage : Nat := 100
  maxRetries : Nat := 3
  retryBaseDelaySecs : Double := Double.ofNat 2
  deriving Repr, Inhabited, DecidableEq

structure ReconcileConfig where
  batchSize : Nat := 1000
  sampleSize : Nat := 10
  deriving Repr, Inhabited, DecidableEq

structure Config where
  dbPath : String
  index : IndexConfig := {}
  sync : SyncConfig := {}
  reconcile : ReconcileConfig := {}
  deriving Repr, Inhabited, DecidableEq

namespace Config

/-- The member of a record: by name in a table, by position in an array. -/
def member? (names : List String) (value : Toml) (name : String) : Option Toml :=
  match value with
  | .table members => Keyed.find? name members
  | .arr items => items[names.idxOf name]?
  | _ => none

/-- Is the value a table or one that stands for it? An array gives the members in their order; a
moment gives none. -/
def isRecord : Toml → Bool
  | .table _ => true
  | .arr _ => true
  | .moment _ => true
  | _ => false

/-- A member that may be absent; its kind must fit if it is there. -/
def optionalMember {α : Type} (kind : Toml → Option α) (value : Option Toml) : Option (Option α) :=
  match value with
  | none => some none
  | some v => (kind v).map some

def str? : Toml → Option String
  | .str s => some s
  | _ => none

def bool? : Toml → Option Bool
  | .bool b => some b
  | _ => none

/-- A natural number up to a limit. -/
def nat? (limit : Nat) : Toml → Option Nat
  | .int n => if 0 ≤ n && n ≤ limit then some n.toNat else none
  | _ => none

def limit32 : Nat := twoTo 32 - 1

def limit64 : Nat := twoTo 64 - 1

def number? : Toml → Option Double
  | .float x => some x
  | .int n => some (Double.ofFraction (n < 0) n.natAbs 1)
  | _ => none

def readIndex (value : Toml) : Option IndexConfig := do
  if !isRecord value then none
  let get := member? ["url", "name", "username", "password", "aws_region", "accept_invalid_certs",
    "timeout_secs", "timeout_retries", "timeout_backoff_secs"] value
  let d : IndexConfig := {}
  return {
    url := (← optionalMember str? (get "url")).getD d.url
    name := (← optionalMember str? (get "name")).getD d.name
    username := ← optionalMember str? (get "username")
    password := ← optionalMember str? (get "password")
    awsRegion := ← optionalMember str? (get "aws_region")
    acceptInvalidCerts :=
      (← optionalMember bool? (get "accept_invalid_certs")).getD d.acceptInvalidCerts
    timeoutSecs := (← optionalMember (nat? limit64) (get "timeout_secs")).getD d.timeoutSecs
    timeoutRetries :=
      (← optionalMember (nat? limit32) (get "timeout_retries")).getD d.timeoutRetries
    timeoutBackoffSecs :=
      (← optionalMember number? (get "timeout_backoff_secs")).getD d.timeoutBackoffSecs }

def readSync (value : Toml) : Option SyncConfig := do
  if !isRecord value then none
  let get := member? ["per_page", "max_retries", "retry_base_delay_secs"] value
  let d : SyncConfig := {}
  return {
    perPage := (← optionalMember (nat? limit64) (get "per_page")).getD d.perPage
    maxRetries := (← optionalMember (nat? limit32) (get "max_retries")).getD d.maxRetries
    retryBaseDelaySecs :=
      (← optionalMember number? (get "retry_base_delay_secs")).getD d.retryBaseDelaySecs }

def readReconcile (value : Toml) : Option ReconcileConfig := do
  if !isRecord value then none
  let get := member? ["batch_size", "sample_size"] value
  let d : ReconcileConfig := {}
  return {
    batchSize := (← optionalMember (nat? limit64) (get "batch_size")).getD d.batchSize
    sampleSize := (← optionalMember (nat? limit64) (get "sample_size")).getD d.sampleSize }

def readDb (value : Toml) : Option String := do
  if !isRecord value then none
  str? (← member? ["path"] value "path")

/-- Read a configuration, in which only the section on the database must be there. -/
def ofToml (value : Toml) : Option Config := do
  let get := member? ["db", "index", "sync", "reconcile"] value
  return {
    dbPath := ← readDb (← get "db")
    index := (← optionalMember readIndex (get "index")).getD {}
    sync := (← optionalMember readSync (get "sync")).getD {}
    reconcile := (← optionalMember readReconcile (get "reconcile")).getD {} }

/-- The end of the host name of a managed cluster. -/
def managedSuffix : String := "es.amazonaws.com"

/-- The region that requests to a managed cluster are signed for, unless another is named. -/
def defaultRegion : String := "us-gov-west-1"

/-- The user and the password for any other host, unless others are named. -/
def defaultUser : String := "admin"

/-- The text without any copies of `lead` at its start; `fuel` bounds their number. -/
def dropLeads (lead : List Char) : Nat → List Char → List Char
  | 0, s => s
  | fuel + 1, s =>
    if lead.isPrefixOf s then dropLeads lead fuel (s.drop lead.length) else s

/-- The name of a host without scheme, port and path. -/
def hostName (host : String) : List Char :=
  let s := dropLeads "https://".toList host.length host.toList
  let s := dropLeads "http://".toList host.length s
  s.takeWhile fun c => c ≠ '/' && c ≠ ':'

def isManagedHost (host : String) : Bool :=
  managedSuffix.toList.isSuffixOf (hostName host)

/-- The URL of a host. A bare name gets a scheme and a port. -/
def urlForHost (host : String) : String :=
  if Text.startsWith "http://" host || Text.startsWith "https://" host then
    String.ofList (host.toList.reverse.dropWhile (· = '/')).reverse
  else
    let port := if Text.endsWith managedSuffix host then 443 else 9200
    s!"https://{host}:{port}"

def logTarget : String := "catalog_index::config"

/-- Point the index at a host and fill in how to sign in there. -/
def overrideHost (host : String) (index : IndexConfig) : IndexConfig :=
  let index := { index with url := urlForHost host }
  if isManagedHost host then
    { index with awsRegion := some (index.awsRegion.getD defaultRegion) }
  else if index.awsRegion.isNone && index.username.isNone then
    { index with
      username := some defaultUser, password := some defaultUser, acceptInvalidCerts := true }
  else index

def overrideLog (host : String) (index : IndexConfig) : List Log.Entry :=
  if isManagedHost host then
    if index.awsRegion.isNone then
      [⟨.debug, logTarget, "defaulting AWS signing region",
        [("region", Text.quoted defaultRegion)]⟩]
    else []
  else if index.awsRegion.isNone && index.username.isNone then
    [⟨.debug, logTarget, "using default credentials for OpenSearch host", []⟩]
  else []

/-- A number of seconds is finite and not negative; negative zero counts as zero. -/
def isDelay (x : Double) : Bool :=
  x.isFinite && (x.isZero || !x.isNegative)

/-- The first thing that is wrong with a configuration. -/
def problem? (c : Config) : Option String :=
  if (Text.trim c.index.name).isEmpty then some "index.name must not be empty"
  else if c.index.timeoutSecs = 0 then some "index.timeout_secs must be > 0"
  else if c.sync.perPage = 0 then some "sync.per_page must be >= 1"
  else if c.reconcile.batchSize = 0 then some "reconcile.batch_size must be >= 1"
  else if !isDelay c.sync.retryBaseDelaySecs then
    some "sync.retry_base_delay_secs must be a non-negative number"
  else if !isDelay c.index.timeoutBackoffSecs then
    some "index.timeout_backoff_secs must be a non-negative number"
  else none

def validate (c : Config) : Except Failure Config :=
  match c.problem? with
  | some text => .error (.message text)
  | none => .ok c

/-- Read a configuration file, of which there is a content or a reason why there is none; `host` is
the override, which counts unless it is blank. The second part is what the log says. -/
def load (path : String) (content : Except String String) (host : Option String) :
    Except Failure Config × List Log.Entry :=
  match content with
  | .error reason =>
    (.error (.context s!"Failed to read config file: {path}" (.message reason)), [])
  | .ok text =>
    match (Toml.parse text).bind ofToml with
    | none => (.error (.context "Failed to parse config file" (.message "invalid TOML")), [])
    | some c =>
      let host := Text.trim (host.getD "")
      let log := if host.isEmpty then [] else overrideLog host c.index
      let c := if host.isEmpty then c else { c with index := overrideHost host c.index }
      let unsigned := c.index.awsRegion.isNone &&
        Text.containsRun managedSuffix.toList c.index.url.toList
      (validate c, log ++ if unsigned then
        [⟨.debug, logTarget,
          "AWS OpenSearch host without aws_region; requests will not be signed", []⟩] else [])

/-- Why a number of seconds is no span. -/
def spanFault : String :=
  "cannot convert float seconds to Duration: value is either too big or NaN"

def timeout (c : IndexConfig) : Span := Span.ofSeconds c.timeoutSecs

/-- The pause before the first retry of a timed-out request, unless it is too long for a span. -/
def timeoutBackoff? (c : IndexConfig) : Option Span := Span.ofDouble? c.timeoutBackoffSecs

/-- The pause before the first retry of a page, unless it is too long for a span. -/
def retryBaseDelay? (c : SyncConfig) : Option Span := Span.ofDouble? c.retryBaseDelaySecs

end Config

end CatalogSearch
