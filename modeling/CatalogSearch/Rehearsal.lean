import CatalogSearch.Cluster.Backend
import CatalogSearch.Index.Memory
import CatalogSearch.Job
import CatalogSearch.Store.Memory
import CatalogSearch.Store.Tables

/-!
# Rehearsals

Jobs can be tried out against a store and an index of choice. Planned faults strike single calls
before they take effect, waiting takes no time, and a journal holds the calls, the pauses and the
progress in their order.
-/
namespace CatalogSearch.Rehearsal

inductive StoreSide where
  | memory (store : Store.Memory)
  | database (store : Store.Database)
  deriving Repr

inductive IndexSide where
  | memory (index : Index.Memory)
  | cluster (backend : Cluster.Backend) (link : Cluster.Link)
  deriving Repr

/-- What is going to strike. A fault is planned for a kind of call, or for the deletion of one
document. -/
structure Faults where
  /-- The calls that fail whenever they are made. -/
  always : List (String × Failure) := []
  /-- What becomes of the next calls; `none` lets one pass. -/
  queued : List (String × List (Option Failure)) := []
  /-- The whole results of the next bulk requests. -/
  bulk : List (List Index.ItemOutcome) := []
  /-- The mapping that is shown instead of the real one. -/
  mapping : Option Json := none
  deriving Repr

structure Journal where
  calls : List String := []
  pauses : List Span := []
  events : List Progress := []
  deriving Repr

structure Stage where
  store : StoreSide
  index : IndexSide
  faults : Faults := {}
  journal : Journal := {}
  deriving Repr

namespace Faults

/-- Plan what becomes of the next calls of a kind. -/
def plan (kind : String) (times : Nat) (fault : Option Failure) (f : Faults) : Faults :=
  let before := (Keyed.find? kind f.queued).getD []
  { f with queued := Keyed.insert kind (before ++ List.replicate times fault) f.queued }

def planAlways (kind : String) (fault : Option Failure) (f : Faults) : Faults :=
  { f with always := match fault with
      | some failure => Keyed.insert kind failure f.always
      | none => Keyed.erase kind f.always }

def clear (f : Faults) : Faults := { f with always := [], queued := [] }

/-- The fault that strikes a call of a kind, if any. -/
def draw (kind : String) (f : Faults) : Option Failure × Faults :=
  match Keyed.find? kind f.always with
  | some failure => (some failure, f)
  | none =>
    match Keyed.find? kind f.queued with
    | some (fault :: rest) => (fault, { f with queued := Keyed.insert kind rest f.queued })
    | _ => (none, f)

def drawFirst : List String → Faults → Option Failure × Faults
  | [], f => (none, f)
  | kind :: rest, f =>
    match f.draw kind with
    | (some failure, f) => (some failure, f)
    | (none, f) => f.drawFirst rest

end Faults

def kinds : Index.Call → List String
  | .deleteDocument id => ["delete_document", "delete_document:" ++ id]
  | call => [call.name]

namespace Stage

def askStore (s : Stage) (call : Store.Call) : Except Failure call.Answer :=
  match s.store with
  | .memory store => store.answer call
  | .database store => store.answer call

def askIndex (s : Stage) (call : Index.Call) : Except Failure call.Answer × Stage :=
  match s.index with
  | .memory index =>
    let (answer, index) := index.answer call
    (answer, { s with index := .memory index })
  | .cluster backend link =>
    let (answer, link) := (backend.answer call).run link
    (answer, { s with index := .cluster backend link })

/-- Answer a request to the index, or show what was planned in place of an answer. -/
def answerIndex (s : Stage) : (call : Index.Call) → Except Failure call.Answer × Stage
  | .bulk documents =>
    match s.faults.bulk with
    | outcomes :: rest => (.ok outcomes, { s with faults := { s.faults with bulk := rest } })
    | [] => s.askIndex (.bulk documents)
  | .mapping =>
    match s.faults.mapping with
    | some mapping => (.ok mapping, s)
    | none => s.askIndex .mapping
  | call => s.askIndex call

/-- Note a call and find out what strikes it. -/
def begin (s : Stage) (name : String) (kinds : List String) : Option Failure × Stage :=
  let (fault, faults) := s.faults.drawFirst kinds
  (fault, { s with faults, journal := { s.journal with calls := s.journal.calls ++ [name] } })

def handler : Job.Handler Stage
  | .store call, s =>
    match s.begin call.name [call.name] with
    | (some failure, s) => (.error failure, s)
    | (none, s) => (s.askStore call, s)
  | .index call, s =>
    match s.begin call.name (kinds call) with
    | (some failure, s) => (.error failure, s)
    | (none, s) => s.answerIndex call
  | .pause span, s =>
    ((), { s with journal := { s.journal with pauses := s.journal.pauses ++ [span] } })
  | .report event, s =>
    ((), { s with journal := { s.journal with events := s.journal.events ++ [event] } })
  | .log _, s => ((), s)

def run {α : Type} (s : Stage) (task : Task α) : Except Failure α × Stage :=
  task.attempt.run handler s

/-- The rehearsal with an empty journal. -/
def turnPage (s : Stage) : Stage := { s with journal := {} }

end Stage

end CatalogSearch.Rehearsal
