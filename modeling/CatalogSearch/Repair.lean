import CatalogSearch.Drift
import CatalogSearch.Index.Client

/-!
# Repair

Missing and updated ids are read from the store and written to the index in batches; extra
documents are deleted one by one; the index is refreshed once at the end. A record that vanished
from the store in the meantime is skipped.
-/
namespace CatalogSearch

open Index (Client DeleteOutcome)

/-- What a repair came to. -/
structure RepairSummary where
  indexed : Nat := 0
  /-- Ids that were no longer in the store. -/
  skipped : Nat := 0
  skippedSample : List String := []
  deleted : Nat := 0
  /-- Extra documents that could not be removed, with the reasons. -/
  deleteFailures : List (String × String) := []
  /-- Documents that the index refused. -/
  failures : List ItemError := []
  /-- The names of the harvest sources of refused documents under their ids. -/
  failedSources : List (String × String) := []
  deriving DecidableEq, Repr, Inhabited

namespace Repair

def defaultBatchSize : Nat := 1000

/-- The source to which refused documents without a harvest source are attributed. -/
def unknownSource : String := "unknown"

def logTarget : String := "catalog_index_core::reconcile"

/-- Cut a list into parts of `size` elements, the last one shorter; `fuel` bounds the parts. -/
def chunksOf {α : Type} (size : Nat) : Nat → List α → List (List α)
  | 0, _ => []
  | _, [] => []
  | fuel + 1, items => items.take size :: chunksOf size fuel (items.drop size)

def chunks {α : Type} (size : Nat) (items : List α) : List (List α) :=
  chunksOf size items.length items

/-- The harvest source that a refused document is attributed to. -/
def blame (records : List Record) (documentId : String) (sources : List (String × String)) :
    List (String × String) :=
  match (records.find? fun r => r.id = documentId).bind Record.harvestSource with
  | some source => Keyed.insert source.id source.name sources
  | none => Keyed.insert unknownSource unknownSource sources

/-- Compare the freshness listings of both sides. -/
def computeDrift (client : Client) : Task Drift := do
  let store ← (Task.store .listing).withContext "Failed to list store ids and timestamps"
  let index ← (client.withTimeoutRetry "scan_freshness" (Task.index .scanFreshness)).withContext
    "Failed to scan index ids and timestamps"
  let drift := Drift.between store index
  Task.always (Job.log .info logTarget "computed drift"
    [("store", toString store.length), ("index", toString index.length),
      ("missing", toString drift.missing.length), ("extra", toString drift.extra.length),
      ("updated", toString drift.updated.length)])
  return drift

def logVanished : List String → Job Unit
  | [] => pure ()
  | id :: rest => do
    Job.log .warn logTarget "record vanished from store before repair, skipping" [("id", id)]
    logVanished rest

def repairBatch (client : Client) (sampleSize totalBatches batch : Nat) (ids : List String)
    (summary : RepairSummary) : Task RepairSummary := do
  let records ← (Task.store (.findByIds ids)).withContext s!"Failed to fetch repair batch {batch}"
  let vanished := ids.filter fun id => !records.any fun r => r.id = id
  Task.always (logVanished vanished)
  let result ← client.upsertBatch (records.map Document.ofRecord)
  Task.always (Job.report (.repairBatch batch totalBatches result.succeeded vanished.length))
  return { summary with
    indexed := summary.indexed + result.succeeded
    skipped := summary.skipped + vanished.length
    skippedSample := summary.skippedSample ++
      vanished.take (sampleSize - summary.skippedSample.length)
    failures := summary.failures ++ result.errors
    failedSources := result.errors.foldl (fun sources e => blame records e.documentId sources)
      summary.failedSources }

/-- Write the batches in their order, counting on from `batch`. -/
def repairBatches (client : Client) (sampleSize totalBatches : Nat) :
    Nat → List (List String) → RepairSummary → Task RepairSummary
  | _, [], summary => return summary
  | batch, ids :: rest, summary => do
    let summary ← repairBatch client sampleSize totalBatches batch ids summary
    repairBatches client sampleSize totalBatches (batch + 1) rest summary

def deleteExtra (id : String) (summary : RepairSummary) : Job RepairSummary := do
  match ← Client.deleteById id with
  | .deleted => return { summary with deleted := summary.deleted + 1 }
  | .missing =>
    Job.log .debug logTarget "extra document already gone from index" [("id", id)]
    return summary
  | .failed reason =>
    Job.log .warn logTarget "failed to delete extra document" [("id", id), ("reason", reason)]
    return { summary with deleteFailures := summary.deleteFailures ++ [(id, reason)] }

def deleteExtras : List String → RepairSummary → Job RepairSummary
  | [], summary => return summary
  | id :: rest, summary => do
    let summary ← deleteExtra id summary
    deleteExtras rest summary

/-- Bring the index in line with the store, as far as a drift report says. -/
def repair (client : Client) (batchSize : Nat) (drift : Drift) (sampleSize : Nat) :
    Task RepairSummary := do
  let batches := chunks (max batchSize 1) drift.idsToIndex
  let summary ← repairBatches client sampleSize batches.length 1 batches {}
  let summary ← Task.always (deleteExtras drift.extra summary)
  if !drift.extra.isEmpty then
    Task.always (Job.report (.repairDeleted summary.deleted summary.deleteFailures.length))
  (client.withTimeoutRetry "refresh" (Task.index .refresh)).withContext
    "Failed to refresh index after repair"
  Task.always (Job.log .info logTarget "repair finished"
    [("indexed", toString summary.indexed), ("skipped", toString summary.skipped),
      ("deleted", toString summary.deleted), ("failed", toString summary.failures.length)])
  return summary

end Repair

end CatalogSearch
