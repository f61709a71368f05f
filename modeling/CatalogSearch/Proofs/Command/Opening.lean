import CatalogSearch.Command.Session
import CatalogSearch.Keyed.Lookup

/-!
# Opening the database

What a command does once its database is open, and how a database that can be reached is opened.
-/
namespace CatalogSearch.Command

open Store (Locator Tables)

namespace Action

/-- An action goes on from where the one before it ended. -/
theorem run_bind {α β : Type} {x : Action α} {f : α → Action β} {w w' : World} {a : α}
    (h : x.run w = (.ok a, w')) : (x >>= f).run w = (f a).run w' := by
  have step : (x >>= f).run w =
      StateT.bind x.run (fun outcome => ExceptT.bindCont f outcome) w := rfl
  rw [step, StateT.bind]
  simp only [h]
  rfl

theorem run_get (w : World) : (get : Action World).run w = (.ok w, w) := rfl

theorem run_ofOutcome {α : Type} (a : α) (w : World) :
    (ofOutcome (.ok a)).run w = (.ok a, w) := rfl

end Action

/-- A database that stands at a seat can be replaced there. -/
theorem World.database_setDatabase {w : World} {seat : Seat} {t : Tables}
    (there : w.database seat = ⟨some t⟩) (db : Store.Database) :
    (w.setDatabase seat db).database seat = db := by
  unfold World.database at there
  unfold World.database World.setDatabase
  cases hfile : seat.file with
  | none => rfl
  | some names =>
    have nonempty : names.isEmpty = false := by
      cases names with
      | nil =>
        rw [hfile] at there
        simp [Files.node?] at there
      | cons name rest => rfl
    simp [Files.put, Files.node?, nonempty]

/-- A database whose file can be reached is opened where it stands. -/
theorem World.openDatabase_eq {w : World} {path : String} {l : Locator} {seat : Seat}
    (parent : w.files.makeParent path = (none, w.files)) (located : Locator.ofPath path = .ok l)
    (sound : l.fault? = none) (seated : w.seat? l = some seat)
    (clear : (seat.file.bind fun names => w.fileFault? l names) = none) :
    w.openDatabase path = (.ok seat, w.claim l seat) := by
  unfold World.openDatabase
  rw [parent, located]
  simp only [World.openLocated, sound, seated, clear]
  rfl

/-- The tables of a database that can be changed are created once it is open. -/
theorem Session.openTables_eq {config : Config} {w w' : World} {seat : Seat}
    (opened : w.openDatabase config.dbPath = (.ok seat, w')) (writable : seat.isProtected = false) :
    (Session.openTables config).run w =
      (.ok seat, w'.setDatabase seat (w'.database seat).migrate) := by
  have store : (Session.openStore config).run w = (.ok seat, w') := by
    unfold Session.openStore
    rw [Action.run_bind (Action.run_get w), opened]
    rfl
  unfold Session.openTables
  rw [Action.run_bind store, Action.run_bind (Action.run_get w')]
  simp only [writable]
  rfl

end CatalogSearch.Command
