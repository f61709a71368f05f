import CatalogSearch.Command.Session

/-!
# The sync command

Rebuilds the index from the database, or writes a single dataset, and says what came of it.
-/
namespace CatalogSearch.Command

def itemErrorLine (e : ItemError) : String :=
  s!"{e.documentId}: [{e.status}] {e.errorType}: {e.errorReason}" ++
    (match e.causedBy with
      | some cause => s!" (caused by {cause})"
      | none => "")

namespace SyncRun

/-- What is shown after a full sync. The number of errors is always shown. -/
def reportLines (r : SyncReport) : List String :=
  [s!"Indexed {r.succeeded} items.",
    s!"  datasets in database: {r.storeCount}",
    s!"  in index before: {r.indexBefore}",
    s!"  in index after: {r.indexAfter}",
    s!"  index recreated: {r.recreated}"] ++
  (if r.exactKeywordField then [] else ["  warning: mapping has no keyword.raw field"]) ++
  s!"There were {r.errors.length} errors" :: r.errors.map fun e => "  " ++ itemErrorLine e

def single (session : Session) (key : String) (recreate : Bool) : Action Unit := do
  let record ← session.perform (Sync.singleSync session.client key recreate)
  Action.print s!"Indexed dataset {record.slug} ({record.id})"

def full (session : Session) (options : SyncOptions) (startPage perPage : Nat) (recreate : Bool) :
    Action Unit := do
  Action.print (if recreate then "Recreating dataset index..." else "Emptying dataset index...")
  Action.print "Indexing datasets..."
  let report ← session.perform (Sync.fullSync session.client options startPage perPage recreate)
  Action.printAll (reportLines report)

/-- Sync one dataset if there is a key, else all of them. -/
def run (config : Config) (key : Option String) (startPage : Nat) (perPage : Option Nat)
    (recreate : Bool) (mode : Progress.Mode) : Action Unit := do
  let _ ← Session.openStore config
  let session ← Session.connect config mode
  let options ← Session.syncOptions config
  match key with
  | some key => single session key recreate
  | none => full session options startPage (perPage.getD config.sync.perPage) recreate

end SyncRun

end CatalogSearch.Command
