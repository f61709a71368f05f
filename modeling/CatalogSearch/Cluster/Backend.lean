import CatalogSearch.Cluster.Dsl
import CatalogSearch.Cluster.Exchange
import CatalogSearch.Cluster.Url.Reader
import CatalogSearch.Config

/-!
# An index on a cluster

Requests to the index as exchanges with a cluster that holds it. A status of success is the only
one that is believed, and an answer that lacks what was asked for is a failure of its own. The
freshness of all documents is read page by page through a scroll, which is released in the end,
also when a page fails.
-/
namespace CatalogSearch.Cluster

/-- What a program signs in with. -/
inductive Access where
  | anonymous
  | basic (user password : String)
  | signing (credentials : Credentials) (region : String)
  deriving Repr

/-- One index of a cluster and the way to it. -/
structure Backend where
  base : Url
  index : String
  access : Access
  deriving Repr

def isSuccess (status : Nat) : Bool := 200 ≤ status && status < 300

/-- The start of a text, as a failure shows it. -/
def snippet (text : String) : String :=
  String.ofList (text.toList.take 500)

/-- The failure that a status reports, if it does not report success. -/
def statusError? (status : Nat) (text : String) : Option IndexError :=
  if isSuccess status then none
  else if status = 404 then some (.notFound (snippet text))
  else if status = 408 || status = 504 then some (.timeout s!"HTTP {status}")
  else if status = 429 || status = 502 || status = 503 then
    some (.unavailable s!"HTTP {status}: {snippet text}")
  else some (.status status (snippet text))

def logTarget : String := "catalog_index::opensearch"

namespace Backend

/-- Read the base URL and find what to sign in with. -/
def connect (config : IndexConfig) (env : Environment) : Except Failure Backend :=
  match Url.parse config.url with
  | .error e => .error (.message s!"Invalid index.url '{config.url}': {e.message}")
  | .ok base =>
    match config.awsRegion, config.username with
    | some region, _ => do
      let credentials ← Credentials.ofEnvironment env
      return ⟨base, config.name, .signing credentials region⟩
    | none, some user => .ok ⟨base, config.name, .basic user (config.password.getD "")⟩
    | none, none => .ok ⟨base, config.name, .anonymous⟩

def indexPath (b : Backend) (suffix : String) : String :=
  "/" ++ Text.uriEncode b.index ++ suffix

/-- A part of a URL without its percent codes. -/
def decoded? (part : String) : Option String :=
  (Text.readUtf8 (Text.uriDecode part.toList)).toOption

def urlUser? (url : Url) : Option (String × String) := do
  let (user, password) ← url.userInfo
  return (← decoded? user, (password.bind decoded?).getD "")

/-- What a request says about its sender. -/
def authorize (b : Backend) (method : Method) (path query body : String) (clock : Int) :
    Authorization :=
  match b.access with
  | .basic user password => .basic user password
  | .signing credentials region =>
    .signed (Signature.sign credentials region
      ⟨method.name, b.base.authority, path, query, Text.utf8 body⟩ clock)
  | .anonymous =>
    match urlUser? b.base with
    | some (user, password) => .basic user password
    | none => .anonymous

def request (b : Backend) (method : Method) (path : String) (params : List (String × String))
    (body : Option (ContentType × String)) (clock : Int) : Request :=
  let query := Text.canonicalQuery params
  { method
    url := { (b.base.setPath path).setQuery query with userInfo := none }
    body
    authorization := b.authorize method path query ((body.map (·.2)).getD "") clock }

def send (b : Backend) (method : Method) (path : String) (params : List (String × String))
    (body : Option (ContentType × String)) : Exchange (Nat × String) := do
  let link ← get
  Exchange.send (b.request method path params body link.clock)

/-- A value that an answer must hold. -/
def expect {α : Type} (lack : String) : Option α → Exchange α
  | some a => return a
  | none => throw (.malformed lack)

/-- The value in an answer that reports success. -/
def believed (answer : Nat × String) : Exchange Json :=
  match statusError? answer.1 answer.2 with
  | some error => throw (.index error)
  | none =>
    match Json.parse answer.2 with
    | .ok value => return value
    | .error e => throw (.malformed e)

def sendJson (b : Backend) (method : Method) (path : String) (params : List (String × String))
    (body : Option Json) : Exchange Json := do
  believed (← b.send method path params (body.map fun value => (.json, value.print)))

/-- The line that announces a document of a bulk request. -/
def actionLine (b : Backend) (d : Document) : Json :=
  Json.object [("index", Json.object [("_index", .str b.index), ("_id", .str d.id)])]

/-- The body of a bulk request: two lines a document. -/
def bulkBody (b : Backend) (documents : List Document) : String :=
  String.join (documents.map fun d => (b.actionLine d).print ++ "\n" ++ d.toJson.print ++ "\n")

/-- A text in a member, or another one in its place. -/
def textOr (other : String) (key : String) (value : Json) : String :=
  ((value.get key).str?).getD other

def itemOutcome (d : Document) (item : Json) : Index.ItemOutcome :=
  let result := item.get "index"
  let status := ((result.get "status").nat?.getD 0) % twoTo 16
  let error := result.get? "error"
  if error.isNone && isSuccess status then .indexed
  else
    let error := error.getD .null
    .failed {
      documentId := textOr d.id "_id" result
      status
      errorType := textOr "unknown" "type" error
      errorReason := textOr "" "reason" error
      causedBy := (error.get? "caused_by").map fun cause =>
        textOr "unknown" "type" cause ++ ": " ++ textOr "" "reason" cause }

/-- The outcomes that a bulk answer reports, aligned with the documents. -/
def readBulk (documents : List Document) (answer : Json) : Option (List Index.ItemOutcome) :=
  (answer.get "items").arr?.map fun items =>
    (items.zip documents).map fun p => itemOutcome p.2 p.1

def bulk (b : Backend) (documents : List Document) : Exchange (List Index.ItemOutcome) := do
  if documents.isEmpty then return []
  let answer ← believed (← b.send .post "/_bulk" [] (some (.lines, b.bulkBody documents)))
  expect "bulk response has no items" (readBulk documents answer)

def documentPath (b : Backend) (id : String) : String :=
  b.indexPath ("/_doc/" ++ Text.uriEncode id)

def readHit (hit : Json) : Except Failure Document :=
  match hit.get? "_source" with
  | none => .error (.malformed "search hit has no _source")
  | some source =>
    match Document.ofJson source with
    | .ok d => .ok d
    | .error e => .error (.malformed s!"search hit: {e}")

def readSearch (answer : Json) : Except Failure Index.SearchResult := do
  let some total := (answer.path? ["hits", "total", "value"]).bind Json.nat?
    | .error (.malformed "search response has no total")
  let some hits := (answer.path? ["hits", "hits"]).bind Json.arr?
    | .error (.malformed "search response has no hits")
  return ⟨total, ← hits.mapM readHit⟩

def search (b : Backend) (request : Index.SearchRequest) : Exchange Index.SearchResult := do
  let body := Dsl.searchBody request
  Exchange.log ⟨.debug, logTarget, "search request", [("body", body.print)]⟩
  let answer ← b.sendJson .post (b.indexPath "/_search") [] (some body)
  ExceptT.mk (pure (readSearch answer))

def readBucket (bucket : Json) : Option (String × Nat) := do
  return (← (bucket.get "key").str?, ← (bucket.get "doc_count").nat?)

def keywordTerms (b : Backend) (size minCount : Nat) : Exchange (List (String × Nat)) := do
  let answer ← b.sendJson .post (b.indexPath "/_search") [] (some (Dsl.keywordBody size minCount))
  let buckets ← expect "aggregation response has no buckets"
    ((answer.path? ["aggregations", "keywords", "buckets"]).bind Json.arr?)
  return buckets.filterMap readBucket

def scanPageSize : Nat := 1000

/-- How long the cluster keeps a scroll alive between two pages. -/
def scanKeepAlive : String := "2m"

/-- The freshness that a hit shows; a hit without an id is passed over. -/
def readFreshness (hit : Json) : Option Freshness := do
  return (← (hit.get "_id").str?, (hit.path? ["_source", "last_harvested_date"]).bind Json.str?)

/-- The scroll that a page continues, if it names one. -/
def scrollOf (page : Json) : Option String := (page.get "_scroll_id").str?

def nextPage (b : Backend) (scroll : String) : Exchange Json :=
  b.sendJson .post "/_search/scroll" []
    (some (Json.object [("scroll", .str scanKeepAlive), ("scroll_id", .str scroll)]))

/-- Read `page` and all pages after it. The second part is the newest scroll, whether the reading
succeeded or not. One more page than there are replies cannot come, so `fuel` never runs out. -/
def drain (b : Backend) (scroll : Option String) (found : List Freshness) (page : Json) :
    Nat → StateM Link (Except Failure (List Freshness) × Option String)
  | 0 => return (.error (.malformed "scroll does not end"), scroll)
  | fuel + 1 =>
    match (page.path? ["hits", "hits"]).bind Json.arr? with
    | none => return (.error (.malformed "scroll response has no hits"), scroll)
    | some [] => return (.ok found, scroll)
    | some hits =>
      let found := found ++ hits.filterMap readFreshness
      match scroll with
      | none => return (.ok found, none)
      | some id => do
        match ← (b.nextPage id).run with
        | .error failure => return (.error failure, some id)
        | .ok page => b.drain (some ((scrollOf page).getD id)) found page fuel

/-- Release a scroll; a failure to do so is only noted. -/
def release (b : Backend) (scroll : String) : Exchange Unit := do
  let body := Json.object [("scroll_id", Json.strings [scroll])]
  match ← ExceptT.lift (b.sendJson .delete "/_search/scroll" [] (some body)).run with
  | .ok _ => return
  | .error failure =>
    Exchange.log ⟨.debug, logTarget, "failed to clear scroll context", [("error", failure.text)]⟩

def scan (b : Backend) : Exchange (List Freshness) := do
  let first ← b.sendJson .post (b.indexPath "/_search") [("scroll", scanKeepAlive)]
    (some (Dsl.freshnessBody scanPageSize))
  let link ← get
  let (result, scroll) ←
    ExceptT.lift (b.drain (scrollOf first) [] first (link.replies.length + 1))
  match scroll with
  | some id => b.release id
  | none => pure ()
  ExceptT.mk (pure result)

def doesExist (b : Backend) : Exchange Bool := do
  let (status, text) ← b.send .head (b.indexPath "") [] none
  if status = 404 then return false
  match statusError? status text with
  | some error => throw (.index error)
  | none => return true

/-- The mapping in an answer that is keyed by the name of the index, or by the name behind it. -/
def readMapping (answer : Json) : Option Json := do
  let (_, entry) ← (← answer.obj?).head?
  entry.get? "mappings"

def answer (b : Backend) : (call : Index.Call) → Exchange call.Answer
  | .exists => b.doesExist
  | .create mapping => do
    let _ ← b.sendJson .put (b.indexPath "") [] (some (Json.object [("mappings", mapping)]))
  | .drop => do
    let _ ← b.sendJson .delete (b.indexPath "") [] none
  | .mapping => do
    let answer ← b.sendJson .get (b.indexPath "/_mapping") [] none
    expect "mapping response has no mappings" (readMapping answer)
  | .bulk documents => b.bulk documents
  | .deleteAll => do
    let answer ← b.sendJson .post (b.indexPath "/_delete_by_query")
      [("conflicts", "proceed"), ("refresh", "true")]
      (some (Json.object [("query", Dsl.everything)]))
    return (answer.get "deleted").nat?.getD 0
  | .deleteDocument id => do
    let _ ← b.sendJson .delete (b.documentPath id) [] none
  | .search request => b.search request
  | .keywordTerms size minCount => b.keywordTerms size minCount
  | .scanFreshness => b.scan
  | .refresh => do
    let _ ← b.sendJson .post (b.indexPath "/_refresh") [] none
  | .count => do
    let answer ← b.sendJson .get (b.indexPath "/_count") [] none
    expect "count response has no count" (answer.get "count").nat?

end Backend

end CatalogSearch.Cluster
