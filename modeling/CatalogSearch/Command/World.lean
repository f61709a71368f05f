import CatalogSearch.Cluster.Exchange
import CatalogSearch.Command.Files
import CatalogSearch.Progress
import CatalogSearch.Seed
import CatalogSearch.Store.Locator
import CatalogSearch.Time.Span

/-!
# The world of a command

Everything that a command touches: files with the databases among them, environment, the line to
the cluster, and what it shows. A command is an action on this world; what was done before a
failure stays done.
-/
namespace CatalogSearch.Command

open Cluster (Environment Link)
open Store (Database Locator)

inductive Output where
  | line (text : String)
  /-- A line of progress on standard error. -/
  | progress (text : String)
  | entry (e : Log.Entry)
  /-- The reason, on standard error, why the program ends. -/
  | reason (text : String)
  | pause (span : Span)
  deriving Repr

/-- Why a command ends early. -/
inductive Stop where
  | failure (f : Failure)
  /-- It cannot go on at all. -/
  | fault (text : String)
  deriving Repr

structure Seat where
  /-- The names that lead to its file; none for a database in memory. -/
  file : Option (List String) := none
  isProtected : Bool := false
  deriving DecidableEq, Repr

structure World where
  files : Files := {}
  /-- The database that the running command keeps in memory. -/
  memory : Database := {}
  environment : Environment := []
  /-- Does a person read standard error? -/
  terminal : Bool := false
  link : Link := {}
  /-- Datasets that someone else removes from the database while the replies to come are under way,
  aligned with the replies. -/
  rivals : List (Option String) := []
  /-- The random ids, in the order in which they are drawn. -/
  ids : Nat → String := Seed.randomId
  drawn : Nat := 0
  /-- What was shown, first to last. -/
  output : List Output := []
  deriving Inhabited

abbrev Action (α : Type) : Type := ExceptT Stop (StateM World) α

namespace World

def read (w : World) (path : String) : Except String String :=
  (w.files.read path).mapError FileError.message

def addFile (path text : String) (w : World) : World :=
  { w with files := w.files.add (w.files.namesOf path) (.text text) }

/-- The database at a seat; it is empty if there is none. -/
def database (w : World) (seat : Seat) : Database :=
  match seat.file with
  | none => w.memory
  | some names =>
    match w.files.node? names with
    | some (.database db) => db
    | _ => {}

def setDatabase (w : World) (seat : Seat) (db : Database) : World :=
  match seat.file with
  | none => { w with memory := db }
  | some names => { w with files := w.files.put names (.database db) }

/-- The seat of a database, if its file can be reached. -/
def seat? (w : World) (l : Locator) : Option Seat :=
  if l.isTransient then some { isProtected := l.readOnly }
  else do
    let names ← w.files.databaseNames? l.path
    return { file := some names, isProtected := l.readOnly || l.immutable }

/-- Why something that stands at the path of a database cannot be opened as one. -/
def fileFault? (w : World) (l : Locator) (names : List String) : Option (Nat × String) :=
  let isLong := Files.databaseNameLimit < (names.getLastD "").utf8ByteSize
  match w.files.node? names with
  | some (.database _) => none
  | some .directory => some Store.cannotOpen
  | some .binary => some Store.noDatabase
  | some (.text content) =>
    if 1 < content.utf8ByteSize then some Store.noDatabase
    else if l.readOnly then some Store.readOnlyDatabase
    else if isLong then some Store.cannotOpen
    else none
  | none =>
    match w.files.node? names.dropLast with
    | some .directory => if l.readOnly || isLong then some Store.cannotOpen else none
    | _ => some Store.cannotOpen

/-- The world after a database has been opened: its file exists, and it is a database unless it
cannot be changed. -/
def claim (w : World) (l : Locator) (seat : Seat) : World :=
  match seat.file with
  | none => { w with memory := {} }
  | some names =>
    if !l.immutable then w.setDatabase seat (w.database seat)
    else if (w.files.node? names).isSome then w
    else { w with files := w.files.put names (.text "") }

def openLocated (w : World) (l : Locator) : Except Failure Seat × World :=
  match l.fault?, w.seat? l with
  | some f, _ => (.error f, w)
  | none, none => (.error (Store.errorOf Store.cannotOpen), w)
  | none, some seat =>
    match seat.file.bind fun names => w.fileFault? l names with
    | some fault => (.error (Store.errorOf fault), w)
    | none => (.ok seat, w.claim l seat)

/-- Open the database of a configured path. The directory that it stands in is made first. -/
def openDatabase (w : World) (path : String) : Except Failure Seat × World :=
  let (fault, files) := w.files.makeParent path
  let w := { w with files }
  match fault, Locator.ofPath path with
  | some e, _ => (.error (.message e.message), w)
  | none, .error f => (.error f, w)
  | none, .ok l =>
    let (outcome, w) := w.openLocated l
    (withContext s!"Failed to open catalog database: {path}" outcome, w)

def seatOf (w : World) (path : String) : Seat :=
  (((Locator.ofPath path).toOption).bind w.seat?).getD {}

def display (o : Output) (w : World) : World :=
  { w with output := w.output ++ [o] }

/-- What someone else removes while some replies are under way. -/
def letRivals (w : World) (seat : Seat) (replies : Nat) : World :=
  let removed := (w.rivals.take replies).filterMap id
  let w := { w with rivals := w.rivals.drop replies }
  if removed.isEmpty then w
  else w.setDatabase seat (removed.foldl (fun db id => (db.removeDataset id).2) (w.database seat))

end World

namespace Action

variable {α : Type}

def fail (f : Failure) : Action α := throw (.failure f)

def ofOutcome : Except Failure α → Action α
  | .ok a => pure a
  | .error f => fail f

def print (text : String) : Action Unit :=
  modify (World.display (.line text))

def printAll : List String → Action Unit
  | [] => pure ()
  | text :: rest => do
    print text
    printAll rest

def log (level : Log.Level) (target message : String) (details : List (String × String)) :
    Action Unit :=
  modify (World.display (.entry ⟨level, target, message, details⟩))

end Action

end CatalogSearch.Command
