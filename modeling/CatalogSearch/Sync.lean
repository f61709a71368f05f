import CatalogSearch.Repair

/-!
# Syncing

A full sync recreates or empties the index and then writes the records of the store page by page,
strictly in order. A page that fails in a way that may pass is done again; any other failure ends
the run. Documents that the index refuses are collected and never end it. A single record can be
synced on its own, and the two sides can be compared and repaired.
-/
namespace CatalogSearch

open Index (Client BulkSummary)

structure SyncOptions where
  /-- Retries of a page after the first attempt. -/
  maxRetries : Nat := 3
  /-- The pause before the first retry of a page. -/
  retryBaseDelay : Span := Span.ofSeconds 2
  /-- Which failures of a page may pass. -/
  classifier : Retry.Classifier := Retry.classifySync
  repairBatchSize : Nat := Repair.defaultBatchSize

structure SyncReport where
  storeCount : Nat
  indexBefore : Nat
  indexAfter : Nat
  /-- Was the index dropped and created again? -/
  recreated : Bool
  /-- Does the mapping let keywords be matched exactly? Looked up only after a recreation. -/
  exactKeywordField : Bool
  pages : Nat
  succeeded : Nat
  errors : List ItemError
  deriving DecidableEq, Repr, Inhabited

structure CompareOutcome where
  drift : Drift
  /-- The repair, if one was asked for. -/
  repair : Option RepairSummary
  deriving DecidableEq, Repr

namespace Sync

def logTarget : String := "catalog_index_core::sync"

inductive Phase where
  | init | recreateSchema | emptyIndex | pageLoop | refresh | done | failed
  deriving DecidableEq, Repr

def Phase.name : Phase → String
  | .init => "Init"
  | .recreateSchema => "RecreateSchema"
  | .emptyIndex => "EmptyIndex"
  | .pageLoop => "PageLoop"
  | .refresh => "Refresh"
  | .done => "Done"
  | .failed => "Failed"

def enter (phase : Phase) : Job Unit :=
  Job.log .debug logTarget "sync phase" [("phase", phase.name)]

/-- The number of pages of `size` records that hold `count` records. -/
def pageCount (count size : Nat) : Nat := (count + size - 1) / size

/-- The number of documents, zero if there is no index. -/
def countOrZero (client : Client) : Task Nat := do
  match ← Task.always (client.withTimeoutRetry "count" (Task.index .count)).attempt with
  | .ok n => return n
  | .error failure => if failure.isNotFound then return 0 else Task.fail failure

def syncPage (client : Client) (page perPage : Nat) : Task BulkSummary := do
  let records ← (Task.store (.page page perPage)).withContext s!"Failed to fetch page {page}"
  client.upsertBatch (records.map Document.ofRecord)

structure Totals where
  pages : Nat := 0
  succeeded : Nat := 0
  errors : List ItemError := []

/-- The failure that a page given up ends a run with. -/
def pageFailure (page : Nat) (given : Retry.GivenUp) : Failure :=
  if given.exhausted then .retriesExhausted page given.attempts given.failure
  else .pageFailed page given.failure

/-- Sync `count` pages from `page` on. -/
def syncPages (client : Client) (options : SyncOptions) (perPage totalPages : Nat) :
    Nat → Nat → Totals → Task Totals
  | 0, _, totals => return totals
  | count + 1, page, totals => do
    let policy : Retry.Policy := ⟨options.maxRetries, options.retryBaseDelay, options.classifier⟩
    match ← Task.always
        (Retry.run policy s!"sync page {page}" (syncPage client page perPage)) with
    | .error given =>
      Task.always (enter .failed)
      Task.fail (pageFailure page given)
    | .ok summary =>
      Task.always (Job.report (.pageIndexed page totalPages summary.succeeded summary.failed))
      syncPages client options perPage totalPages count (page + 1)
        ⟨totals.pages + 1, totals.succeeded + summary.succeeded, totals.errors ++ summary.errors⟩

/-- Drop and create the index; the answer says whether keywords can be matched exactly. -/
def recreate (client : Client) : Task Bool := do
  Task.always (enter .recreateSchema)
  (client.withTimeoutRetry "recreate_schema" Client.recreateSchema).withContext
    "Failed to recreate index"
  let exact ← client.withTimeoutRetry "get_mapping" Client.hasExactKeywordField
  if !exact then
    Task.always (Job.log .warn logTarget
      ("index mapping has no exact keyword sub-field; keyword filters and aggregations will " ++
        "not work") [])
  return exact

/-- Create the index if it is absent and remove its documents. -/
def empty (client : Client) : Task Unit := do
  Task.always (enter .emptyIndex)
  (client.withTimeoutRetry "ensure_schema" Client.ensureSchema).withContext
    "Failed to create index"
  let _ ← (client.withTimeoutRetry "delete_all" Client.deleteAllDocuments).withContext
    "Failed to empty index"

/-- Rebuild the index from the store, from a page on; pages are counted from one. -/
def fullSync (client : Client) (options : SyncOptions) (startPage perPage : Nat)
    (recreateSchema : Bool) : Task SyncReport := do
  if perPage = 0 then
    Task.fail (.message "per_page must be at least 1")
  let startPage := max startPage 1
  Task.always (enter .init)
  let indexBefore ← countOrZero client
  let exact ← if recreateSchema then recreate client else do
    empty client
    pure true
  let storeCount ← (Task.store .countAll).withContext "Failed to count store records"
  let totalPages := pageCount storeCount perPage
  Task.always (Job.report (.syncStarted storeCount totalPages))
  Task.always (enter .pageLoop)
  let totals ←
    syncPages client options perPage totalPages (totalPages + 1 - startPage) startPage {}
  Task.always (enter .refresh)
  (client.withTimeoutRetry "refresh" (Task.index .refresh)).withContext "Failed to refresh index"
  let indexAfter ← client.withTimeoutRetry "count" (Task.index .count)
  Task.always (enter .done)
  Task.always (Job.log .info logTarget "full sync finished"
    [("pages", toString totals.pages), ("succeeded", toString totals.succeeded),
      ("errors", toString totals.errors.length)])
  return ⟨storeCount, indexBefore, indexAfter, recreateSchema, exact, totals.pages,
    totals.succeeded, totals.errors⟩

/-- The record with an id or else a slug. -/
def resolve (key : String) : Task Record := do
  match ← Task.store (.findById key) with
  | some record => return record
  | none =>
    match ← Task.store (.findBySlug key) with
    | some record => return record
    | none => Task.fail (.recordNotFound key)

/-- Write one record, found by its id or else by its slug. Nothing is retried. -/
def singleSync (client : Client) (key : String) (recreateSchema : Bool) : Task Record := do
  if recreateSchema then
    Task.fail .recreateNotAllowed
  let record ← resolve key
  Client.ensureSchema
  let summary ← client.upsertBatch [Document.ofRecord record]
  match summary.errors with
  | error :: _ => Task.fail (.documentRejected error)
  | [] =>
    Task.index .refresh
    Task.always (Job.log .info logTarget "indexed single dataset"
      [("id", record.id), ("slug", record.slug)])
    return record

/-- Compare both sides, and repair the index if asked to. -/
def compareAndFix (client : Client) (options : SyncOptions) (sampleSize : Nat) (fix : Bool) :
    Task CompareOutcome := do
  let drift ← Repair.computeDrift client
  if fix then
    let summary ← Repair.repair client options.repairBatchSize drift sampleSize
    return ⟨drift, some summary⟩
  else return ⟨drift, none⟩

end Sync

end CatalogSearch
