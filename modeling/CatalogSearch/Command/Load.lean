import CatalogSearch.Command.Session
import CatalogSearch.Seed

/-!
# The init and seed commands

Create the tables of the database, and load records into them from a file.
-/
namespace CatalogSearch.Command

namespace InitRun

/-- Create the tables that do not exist yet. -/
def run (config : Config) : Action Unit := do
  discard (Session.openTables config)

end InitRun

namespace SeedRun

def logTarget : String := "catalog_index::seed"

/-- Load the records of a file. The whole file is read before the first record is stored. -/
def run (config : Config) (file : String) : Action Unit := do
  let w ← get
  let content ← Action.ofOutcome (match w.read file with
    | .ok text => .ok text
    | .error reason => .error (.context s!"Failed to read seed file: {file}" (.message reason)))
  let entries ← Action.ofOutcome (Seed.parse content)
  let seat ← Session.openTables config
  let w ← get
  let db := w.database seat
  if seat.isProtected then
    Action.ofOutcome (Seed.storeNone entries db)
  else
    let (outcome, db) := Seed.storeAll w.ids w.drawn entries db
    set { w.setDatabase seat db with drawn := w.drawn + entries.length }
    Action.ofOutcome outcome
  Action.log .info logTarget "seeded datasets"
    [("count", toString entries.length), ("file", file)]
  Action.print s!"Seeded {entries.length} datasets."

end SeedRun

end CatalogSearch.Command
