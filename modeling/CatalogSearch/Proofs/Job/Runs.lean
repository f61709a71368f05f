import CatalogSearch.Proofs.Job.Confined

/-!
# Runs taken apart

A run of two jobs in a row is a run of the first and then one of the second, so that a long run is
taken apart step by step, without a look at how the jobs are written down. What is said of all
histories of a job, and of all its effects, is said of each of its runs.
-/
namespace CatalogSearch

variable {α β σ : Type}

namespace Job

variable {job : Job α} {history : List Event} {a : α}

/-- A run of two jobs in a row is a run of the first and then one of the second. -/
theorem ran_bind {f : α → Job β} {b : β} :
    (job >>= f).Ran history b ↔
      ∃ a first second, history = first ++ second ∧ job.Ran first a ∧ (f a).Ran second b := by
  change (job.bind f).Ran history b ↔ _
  induction job generalizing history with
  | done value =>
    constructor
    · exact fun ran => ⟨value, [], history, rfl, ⟨rfl, rfl⟩, ran⟩
    · rintro ⟨a, first, second, rfl, ⟨rfl, rfl⟩, ran⟩
      exact ran
  | ask effect next ih =>
    constructor
    · rintro ⟨answer, rest, rfl, ran⟩
      obtain ⟨a, first, second, rfl, ran, later⟩ := (ih answer).1 ran
      exact ⟨a, ⟨effect, answer⟩ :: first, second, rfl, ⟨answer, first, rfl, ran⟩, later⟩
    · rintro ⟨a, _, second, rfl, ⟨answer, first, rfl, ran⟩, later⟩
      exact ⟨answer, first ++ second, rfl, (ih answer).2 ⟨a, first, second, rfl, ran, later⟩⟩

/-- A run of a single effect is this effect, and the value is its answer. -/
theorem ran_perform {effect : Effect} {answer : effect.Answer} :
    (perform effect).Ran history answer ↔ history = [⟨effect, answer⟩] := by
  constructor
  · rintro ⟨_, _, rfl, rfl, rfl⟩
    rfl
  · rintro rfl
    exact ⟨answer, [], rfl, rfl, rfl⟩

/-- What is said of all histories of a job is said of its runs. -/
theorem Ends.ran {w : List Event} {post : α → List Event → Prop} (h : job.Ends recording w post)
    (ran : job.Ran history a) : post a (w ++ history) := by
  induction job generalizing w history with
  | done value =>
    obtain ⟨rfl, rfl⟩ := ran
    rw [List.append_nil]
    exact h
  | ask effect next ih =>
    obtain ⟨answer, rest, rfl, ran⟩ := ran
    have last := ih answer (h answer _ rfl) ran
    rwa [List.append_assoc, List.singleton_append] at last

/-- The effects of a run are as said of the job. -/
theorem Ran.confined {p : Effect → Prop} (ran : job.Ran history a) (h : job.Confined p) :
    ∀ e ∈ history, p e.1 := by
  induction job generalizing history with
  | done value =>
    obtain ⟨rfl, -⟩ := ran
    exact fun e he => nomatch he
  | ask effect next ih =>
    obtain ⟨answer, rest, rfl, ran⟩ := ran
    exact List.forall_mem_cons.2 ⟨h.1, ih answer ran (h.2 answer)⟩

/-- The trace of a job's run is a run of it. -/
theorem ran_trace (handler : Handler σ) (job : Job α) (s : σ) :
    job.Ran (job.trace handler s) (job.run handler s).1 := by
  induction job generalizing s with
  | done value => exact ⟨rfl, rfl⟩
  | ask effect next ih => exact ⟨(handler effect s).1, _, rfl, ih _ _⟩

/-- What every answer from an invariant makes true is true of all events of a trace. -/
theorem forall_trace {handler : Handler σ} {inv : σ → Prop} {p : Event → Prop}
    (step : ∀ effect s, inv s → p ⟨effect, (handler effect s).1⟩ ∧ inv (handler effect s).2)
    (job : Job α) {s : σ} (hs : inv s) : ∀ e ∈ job.trace handler s, p e := by
  induction job generalizing s with
  | done value => exact fun e he => nomatch he
  | ask effect next ih =>
    obtain ⟨here, hs'⟩ := step effect s hs
    exact List.forall_mem_cons.2 ⟨here, ih _ hs'⟩

end Job

namespace Task

open Job (Event)

/-- A history is a run of a task that returns a value. -/
def Returned (task : Task α) (history : List Event) (a : α) : Prop :=
  task.attempt.Ran history (.ok a)

variable {task : Task α} {history : List Event} {a : α}

/-- Two tasks in a row return a value if the first one returns what the second goes on with. -/
theorem returned_bind {f : α → Task β} {b : β} :
    (task >>= f).Returned history b ↔ ∃ a first second, history = first ++ second ∧
      task.Returned first a ∧ (f a).Returned second b := by
  refine Job.ran_bind.trans ⟨?_, ?_⟩
  · rintro ⟨outcome, first, second, rfl, ran, later⟩
    cases outcome with
    | ok a => exact ⟨a, first, second, rfl, ran, later⟩
    | error f => cases later.2
  · rintro ⟨a, first, second, rfl, ran, later⟩
    exact ⟨.ok a, first, second, rfl, ran, later⟩

/-- A job that cannot fail returns its value. -/
theorem returned_always {job : Job α} : (always job).Returned history a ↔ job.Ran history a := by
  refine Job.ran_bind.trans ⟨?_, fun ran => ?_⟩
  · rintro ⟨a, first, _, rfl, ran, rfl, same⟩
    rw [List.append_nil, Except.ok.inj same]
    exact ran
  · exact ⟨a, history, [], (List.append_nil history).symm, ran, rfl, rfl⟩

theorem returned_pure {b : α} : (pure b : Task α).Returned history a ↔ history = [] ∧ a = b :=
  and_congr_right fun _ => ⟨Except.ok.inj, congrArg Except.ok⟩

/-- A question to the store returns the answer. -/
theorem returned_store {call : Store.Call} {value : call.Answer} :
    (Task.store call).Returned history value ↔ history = [⟨.store call, .ok value⟩] :=
  Job.ran_perform

/-- A context is for failures alone. -/
theorem returned_withContext {text : String} :
    (task.withContext text).Returned history a ↔ task.Returned history a := by
  refine Job.ran_bind.trans ⟨?_, fun ran => ?_⟩
  · rintro ⟨outcome, first, _, rfl, ran, rfl, same⟩
    rw [List.append_nil]
    cases outcome with
    | ok b =>
      rw [Except.ok.inj same]
      exact ran
    | error f => cases same
  · exact ⟨.ok a, history, [], (List.append_nil history).symm, ran, rfl, rfl⟩

end Task

end CatalogSearch
