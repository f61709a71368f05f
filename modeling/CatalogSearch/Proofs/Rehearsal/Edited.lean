import CatalogSearch.Proofs.Rehearsal.Struck
import CatalogSearch.Proofs.Store.Pages

/-!
# Rehearsals beside which the store is edited

Others insert and remove records while a job runs. A job sees nothing of that but through its
questions to the store, so that it is enough to say what is edited after each question. An edited
rehearsal answers every question from the store as it has become.
-/
namespace CatalogSearch

namespace Store

/-- What others do to a store. -/
inductive Edit where
  | insert (record : Record)
  | remove (id : String)

def Edit.apply (m : Memory) : Edit → Memory
  | .insert record => m.insert record
  | .remove id => m.remove id

/-- A store after so many questions, of which each is followed by some edits. -/
def Memory.after (m : Memory) (edits : Nat → List Edit) : Nat → Memory
  | 0 => m
  | n + 1 => (edits n).foldl Edit.apply (m.after edits n)

theorem Memory.Sound.apply {m : Memory} (h : m.Sound) (edit : Edit) : (edit.apply m).Sound := by
  cases edit with
  | insert record => exact h.insert record
  | remove id => exact h.remove id

/-- A store stays sound through all edits. -/
theorem Memory.Sound.after {m : Memory} (h : m.Sound) (edits : Nat → List Edit) (n : Nat) :
    (m.after edits n).Sound := by
  have several (edits : List Edit) (m : Memory) (h : m.Sound) :
      (edits.foldl Edit.apply m).Sound := by
    induction edits generalizing m with
    | nil => exact h
    | cons edit rest ih => exact ih _ (h.apply edit)
  induction n with
  | zero => exact h
  | succ n ih => exact several (edits n) _ ih

end Store

namespace Rehearsal

open Store (Edit)

/-- A rehearsal after edits of its store in memory. -/
def Stage.edit (edits : List Edit) (s : Stage) : Stage :=
  match s.store with
  | .memory store => { s with store := .memory (edits.foldl Edit.apply store) }
  | .database _ => s

/-- A rehearsal whose store is edited after every question; the state counts the questions. -/
def edited (edits : Nat → List Edit) : Job.Handler (Nat × Stage)
  | .store call, (n, s) =>
    let (answer, after) := Stage.handler (.store call) s
    (answer, (n + 1, after.edit (edits n)))
  | .index call, (n, s) =>
    let (answer, after) := Stage.handler (.index call) s
    (answer, (n, after))
  | .pause span, (n, s) =>
    let (answer, after) := Stage.handler (.pause span) s
    (answer, (n, after))
  | .report event, (n, s) =>
    let (answer, after) := Stage.handler (.report event) s
    (answer, (n, after))
  | .log entry, (n, s) =>
    let (answer, after) := Stage.handler (.log entry) s
    (answer, (n, after))

/-- Requests to an index in memory, and questions to a store that is edited after each of them. The
scene is the number of questions so far and the index. -/
def shifting (store : Store.Memory) (edits : Nat → List Edit) : Semantics (Nat × Index.Memory)
  | .store call, (n, m), answer, w' =>
    answer = (store.after edits n).answer call ∧ w' = (n + 1, m)
  | .index call, (n, m), answer, w' => answer = (m.answer call).1 ∧ w' = (n, (m.answer call).2)
  | .pause _, w, _, w' => w' = w
  | .report _, w, _, w' => w' = w
  | .log _, w, _, w' => w' = w

variable {store : Store.Memory} {edits : Nat → List Edit} {n : Nat} {m : Index.Memory}

/-- An edited rehearsal answers as its index and its store of the moment do. -/
theorem edited_follows (store : Store.Memory) (edits : Nat → List Edit) :
    Job.Follows (edited edits)
      (fun s w => ∃ journal, s = (w.1, calm (store.after edits w.1) w.2 journal))
      (shifting store edits) := by
  rintro effect s ⟨n, m⟩ ⟨journal, rfl⟩
  obtain ⟨journal', answered⟩ := handler_calm (store.after edits n) m journal effect
  cases effect with
  | store call =>
    simp only [edited, answered]
    exact ⟨(n + 1, m), ⟨rfl, rfl⟩, journal', rfl⟩
  | index call =>
    simp only [edited, answered]
    exact ⟨_, ⟨rfl, rfl⟩, journal', rfl⟩
  | pause span => exact ⟨(n, m), rfl, journal', congrArg (Prod.mk n ·.2) answered⟩
  | report event => exact ⟨(n, m), rfl, journal', congrArg (Prod.mk n ·.2) answered⟩
  | log entry => exact ⟨(n, m), rfl, journal', congrArg (Prod.mk n ·.2) answered⟩

/-- A task that cannot fail succeeds in an edited rehearsal. -/
theorem run_edited {α : Type} {task : Task α} {good : α → Nat × Index.Memory → Prop}
    (journal : Journal) (h : task.Ends (shifting store edits) (0, m) good fun _ _ => False) :
    ∃ a n m' journal', task.attempt.run (edited edits) (0, calm store m journal) =
        (.ok a, n, calm (store.after edits n) m' journal') ∧ good a (n, m') := by
  obtain ⟨⟨n, m'⟩, ⟨journal', left⟩, post⟩ :=
    Job.Ends.run (edited_follows store edits) (s := (0, calm store m journal)) ⟨journal, rfl⟩ h
  generalize task.attempt.run (edited edits) (0, calm store m journal) = result at left post ⊢
  obtain ⟨outcome, s⟩ := result
  cases outcome with
  | ok a => exact ⟨a, n, m', journal', Prod.ext rfl left, post⟩
  | error f => exact post.elim

/-- A question to a store that is edited afterwards. -/
theorem ends_asked {w : Nat × Index.Memory} {call : Store.Call} {value : call.Answer}
    (answers : (store.after edits w.1).answer call = .ok value) :
    (Task.store call).Ends (shifting store edits) w
      (fun a w' => a = value ∧ w' = (w.1 + 1, w.2)) fun _ _ => False := by
  rintro answer w' ⟨rfl, rfl⟩
  rw [answers]
  exact ⟨rfl, rfl⟩

/-- A request that the index answers. -/
theorem ends_requested {w : Nat × Index.Memory} {call : Index.Call} {value : call.Answer}
    {left : Index.Memory} (answers : w.2.answer call = (.ok value, left)) :
    (Task.index call).Ends (shifting store edits) w (fun a w' => a = value ∧ w' = (w.1, left))
      fun _ _ => False := by
  rintro answer w' ⟨rfl, rfl⟩
  rw [answers]
  exact ⟨rfl, rfl⟩

end Rehearsal

end CatalogSearch
