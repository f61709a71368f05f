import CatalogSearch.Command.Sync

/-!
# The compare command

Shows how database and index differ, and repairs the index if asked to. The difference is shown
before the repair begins, so that it is seen even if the repair fails.
-/
namespace CatalogSearch.Command.CompareRun

def sampleLine (size : Nat) (ids : List String) : String :=
  "    sample: " ++ String.intercalate ", " (ids.take size)

/-- A freshness in normal form; one that is absent is named so. -/
def freshnessText (normal : String) : String :=
  if normal.isEmpty then "none" else normal

def updatedLine (e : String × FreshnessPair) : String :=
  s!"    {e.1}: index={freshnessText e.2.index} db={freshnessText e.2.store}"

def driftLines (sampleSize : Nat) (d : Drift) : List String :=
  let sample (ids : List String) : List String :=
    if ids.isEmpty then [] else [sampleLine sampleSize ids]
  ["compare", s!"  missing from index: {d.missing.length}"] ++ sample d.missing ++
  [s!"  extra in index: {d.extra.length}"] ++ sample d.extra ++
  [s!"  updated in database: {d.updated.length}"] ++
  (d.updated.take sampleSize).map updatedLine ++
  if d.isClean then ["in sync"] else []

def failureLines (r : RepairSummary) : List String :=
  if r.failures.isEmpty then []
  else s!"  failed: {r.failures.length}" ::
    (r.failures.map fun e => "    " ++ itemErrorLine e) ++
    "  harvest sources with failures:" ::
    r.failedSources.map fun e => s!"    {e.2} ({e.1})"

def repairLines (r : RepairSummary) : List String :=
  ["repair", s!"  indexed: {r.indexed}", s!"  deleted: {r.deleted}"] ++
  (if r.skipped = 0 then []
    else [s!"  skipped (no longer in database): {r.skipped}  e.g. " ++
      String.intercalate ", " r.skippedSample]) ++
  (r.deleteFailures.map fun e => s!"  delete failed: {e.1}: {e.2}") ++ failureLines r

def run (config : Config) (sampleSize : Option Nat) (fix : Bool) (mode : Progress.Mode) :
    Action Unit := do
  let sampleSize := sampleSize.getD config.reconcile.sampleSize
  let _ ← Session.openStore config
  let session ← Session.connect config mode
  let options ← Session.syncOptions config
  let drift ← session.perform (Repair.computeDrift session.client)
  Action.printAll (driftLines sampleSize drift)
  if fix then
    let summary ← session.perform
      (Repair.repair session.client options.repairBatchSize drift sampleSize)
    Action.printAll (repairLines summary)

end CatalogSearch.Command.CompareRun
