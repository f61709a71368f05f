import CatalogSearch.Retry

/-!
# Working with the index

What jobs do to an index beyond single requests: schema management that can be repeated, bulk
writes that no single document can abort, deletes that never fail, and searches of a compiled
query. Documents that the index turns away for now are submitted again up to three times.
-/
namespace CatalogSearch.Index

/-- How often documents that are turned away are submitted again. -/
def maxResubmissions : Nat := 3

/-- The status of a document that is turned away for now. -/
def throttledStatus : Nat := 429

structure Client where
  /-- The pause before the first resubmission. -/
  bulkBackoff : Span := Span.ofSeconds 2
  timeoutRetries : Nat := 3
  /-- The pause before the first such retry. -/
  timeoutBackoff : Span := Span.ofSeconds 2

structure BulkSummary where
  succeeded : Nat := 0
  failed : Nat := 0
  errors : List ItemError := []
  deriving DecidableEq, Repr, Inhabited

inductive DeleteOutcome where
  | deleted
  | missing
  | failed (reason : String)
  deriving DecidableEq, Repr

structure Round where
  /-- The documents to submit again. -/
  throttled : List Document
  succeeded : Nat
  /-- The documents that failed for good. -/
  errors : List ItemError

/-- Sort the outcomes of a round; `again` says whether another one may follow. -/
def tally (again : Bool) : List (Document × ItemOutcome) → Round
  | [] => ⟨[], 0, []⟩
  | (d, outcome) :: rest =>
    let round := tally again rest
    match outcome with
    | .indexed => { round with succeeded := round.succeeded + 1 }
    | .failed error =>
      if again && error.status = throttledStatus then
        { round with throttled := d :: round.throttled }
      else { round with errors := error :: round.errors }

def BulkSummary.add (s : BulkSummary) (round : Round) : BulkSummary :=
  ⟨s.succeeded + round.succeeded, s.failed + round.errors.length, s.errors ++ round.errors⟩

namespace Client

def logTarget : String := "catalog_index_core::index"

/-- Do a task under a policy for time-outs; the last failure is returned as it is. -/
def runWithRetry {α : Type} (name : String) (maxRetries : Nat) (base : Span) (task : Task α) :
    Task α :=
  ExceptT.mk do
    match ← Retry.run ⟨maxRetries, base, Retry.classifyTimeout⟩ name task with
    | .ok value => return .ok value
    | .error given => return .error given.failure

def withTimeoutRetry {α : Type} (client : Client) (name : String) (task : Task α) : Task α :=
  runWithRetry name client.timeoutRetries client.timeoutBackoff task

/-- Create the index with the fixed mapping unless it exists. -/
def ensureSchema : Task Unit := do
  if !(← Task.index .exists) then
    Task.always (Job.log .info logTarget "creating index with fixed mapping" [])
    Task.index (.create fixedMapping)

def recreateSchema : Task Unit := do
  match ← Task.always (Task.index .drop).attempt with
  | .ok () => Task.always (Job.log .info logTarget "dropped index" [])
  | .error failure =>
    if failure.isNotFound then
      Task.always (Job.log .debug logTarget "index already absent before recreate" [])
    else Task.fail failure
  ensureSchema

def hasExactKeywordField : Task Bool := do
  return hasExactKeyword (← Task.index .mapping)

def logRejected (error : ItemError) : Job Unit :=
  Job.log .warn logTarget "document rejected by index"
    [("document_id", error.documentId), ("status", toString error.status),
      ("error_type", error.errorType), ("reason", error.errorReason)]

def logAllRejected : List ItemError → Job Unit
  | [] => pure ()
  | error :: rest => do
    logRejected error
    logAllRejected rest

/-- The pause before a resubmission, counted from one. -/
def resubmissionDelay (client : Client) (count : Nat) : Span :=
  client.bulkBackoff.scale (twoTo (count - 1))

def submit (documents : List Document) (again : Bool) : Task Round := do
  let outcomes ← Task.index (.bulk documents)
  if outcomes.length ≠ documents.length then
    Task.fail (.malformed
      s!"bulk response has {outcomes.length} items for {documents.length} documents")
  let round := tally again (documents.zip outcomes)
  Task.always (logAllRejected round.errors)
  return round

/-- Submit documents, and those that are turned away again, with `left` resubmissions left. -/
def upsertRounds (client : Client) (summary : BulkSummary) (documents : List Document) :
    Nat → Task BulkSummary
  | 0 => do
    if documents.isEmpty then return summary
    let round ← submit documents false
    return summary.add round
  | left + 1 => do
    if documents.isEmpty then return summary
    let round ← submit documents true
    let summary := summary.add round
    if round.throttled.isEmpty then return summary
    let count := maxResubmissions - left
    let delay := client.resubmissionDelay count
    Task.always (Job.log .warn logTarget "bulk items throttled, resubmitting after backoff"
      [("throttled", toString round.throttled.length), ("attempt", toString count),
        ("delay_secs", Retry.secondsText delay)])
    Task.always (Job.pause delay)
    upsertRounds client summary round.throttled left

/-- Write documents. The failure of one never aborts the others; a failure of the request does. -/
def upsertBatch (client : Client) (documents : List Document) : Task BulkSummary :=
  upsertRounds client {} documents maxResubmissions

/-- Remove every document and keep the schema. -/
def deleteAllDocuments : Task Nat := do
  let deleted ← Task.index .deleteAll
  Task.always (Job.log .info logTarget "emptied index" [("deleted", toString deleted)])
  return deleted

/-- Remove one document as far as that is possible. -/
def deleteById (id : String) : Job DeleteOutcome := do
  match ← (Task.index (.deleteDocument id)).attempt with
  | .ok () => return .deleted
  | .error failure =>
    if failure.isNotFound then return .missing else return .failed failure.full

/-- The request of a search. A query that accepts everything does not score, and without a keyword
filter there is nothing to rank by but the id. -/
def searchRequest (query : Query) (filters : Filters) (sort : SortMode) (size start : Nat) :
    SearchRequest :=
  let scored := if query.isMatchAll then none else some query
  let sort := if query.isMatchAll && filters.keywords.isEmpty then .idOnly else sort
  ⟨scored, filters, sort, size, start⟩

def searchPage (query : Query) (filters : Filters) (sort : SortMode) (size start : Nat) :
    Task SearchResult :=
  Task.index (.search (searchRequest query filters sort size start))

end Client

end CatalogSearch.Index
