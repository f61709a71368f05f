import CatalogSearch.Cluster.Backend
import CatalogSearch.Command.World
import CatalogSearch.Sync

/-!
# Sessions of commands

What commands have in common: they open the database that the configuration names, connect to the
index, and run jobs against the two.
-/
namespace CatalogSearch.Command

open Cluster (Backend)

/-- What the jobs of a command run against, and how they show progress. -/
structure Session where
  config : Config
  seat : Seat
  backend : Backend
  client : Index.Client
  mode : Progress.Mode

namespace Session

def logTarget : String := "catalog_index::runtime"

/-- The pause before documents that were turned away are submitted again. -/
def bulkBackoff : Span := Span.ofMillis 500

def openStore (config : Config) : Action Seat := do
  let w ← get
  let (outcome, w) := w.openDatabase config.dbPath
  set w
  Action.ofOutcome outcome

/-- Open the database and create the tables that do not exist yet. -/
def openTables (config : Config) : Action Seat := do
  let seat ← openStore config
  let w ← get
  let db := w.database seat
  if seat.isProtected then
    if db.tables.isNone then Action.fail (Store.errorOf Store.readOnlyDatabase)
  else set (w.setDatabase seat db.migrate)
  return seat

def connect (config : Config) (mode : Progress.Mode) : Action Session := do
  let w ← get
  let backend ← Action.ofOutcome (Backend.connect config.index w.environment)
  Action.log .debug logTarget "index client"
    [("url", config.index.url), ("index", config.index.name),
      ("aws", toString config.index.awsRegion.isSome)]
  match Config.timeoutBackoff? config.index with
  | none => throw (.fault Config.spanFault)
  | some timeoutBackoff =>
    let client : Index.Client :=
      { bulkBackoff, timeoutRetries := config.index.timeoutRetries, timeoutBackoff }
    return ⟨config, w.seatOf config.dbPath, backend, client, mode⟩

def syncOptions (config : Config) : Action SyncOptions :=
  match Config.retryBaseDelay? config.sync with
  | none => throw (.fault Config.spanFault)
  | some retryBaseDelay => return {
      maxRetries := config.sync.maxRetries, retryBaseDelay
      repairBatchSize := config.reconcile.batchSize }

/-- Answer a request to the index; what the exchange noted goes to the log. -/
def askIndex (session : Session) (call : Index.Call) (w : World) :
    Except Failure call.Answer × World :=
  let (answer, link) := (session.backend.answer call).run w.link
  let replies := link.sent.length - w.link.sent.length
  let w := { w with
    link := { link with log := [] }
    output := w.output ++ link.log.map Output.entry }
  (answer, w.letRivals session.seat replies)

def handler (session : Session) : Job.Handler World
  | .store call, w => ((w.database session.seat).answer call, w)
  | .index call, w => session.askIndex call w
  | .pause span, w => ((), w.display (.pause span))
  | .report event, w =>
    ((), match event.line? session.mode with
      | some line => w.display (.progress line)
      | none => w)
  | .log e, w => ((), w.display (.entry e))

def perform {α : Type} (session : Session) (task : Task α) : Action α := do
  let w ← get
  let (outcome, w) := task.attempt.run session.handler w
  set w
  Action.ofOutcome outcome

end Session

end CatalogSearch.Command
