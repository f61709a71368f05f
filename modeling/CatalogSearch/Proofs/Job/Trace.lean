import CatalogSearch.Proofs.Job.Ends
import CatalogSearch.Index.Client

/-!
# What jobs ask for

The trace of a run is what the run asked for, with the answers. A history is a run of a job if the
job, given the answers of the history, asks for all of it in order and is then done. What is said of
the trace of every run is said of all histories, so that it holds of every store and every index,
and however calls fail.
-/
namespace CatalogSearch

variable {α β σ : Type}

def Effect.isCall : Effect → Bool
  | .store _ => true
  | .index _ => true
  | _ => false

namespace Job

/-- An effect with its answer. -/
abbrev Event : Type := (effect : Effect) × effect.Answer

/-- What a run asks for, with the answers. -/
def trace (handler : Handler σ) : Job α → σ → List Event
  | done _, _ => []
  | ask effect next, s =>
    let (answer, after) := handler effect s
    ⟨effect, answer⟩ :: (next answer).trace handler after

/-- Every effect may be answered in any way, and the scene is what was asked for so far. -/
def recording : Semantics (List Event) := fun effect history answer history' =>
  history' = history ++ [⟨effect, answer⟩]

/-- What is said of every history of a job is true of the trace of its run. -/
theorem Ends.trace (handler : Handler σ) {job : Job α} {s : σ} {w : List Event}
    {post : α → List Event → Prop} (h : job.Ends recording w post) :
    post (job.run handler s).1 (w ++ job.trace handler s) := by
  induction job generalizing s w with
  | done value =>
    rw [Job.trace, List.append_nil]
    exact h
  | ask effect next ih =>
    have := ih (handler effect s).1 (s := (handler effect s).2) (h _ _ rfl)
    rw [List.append_assoc, List.singleton_append] at this
    exact this

/-- An event of two histories in a row stands in the first or in the second. -/
theorem append_eq_cases {first second before after : List Event} {e : Event}
    (h : first ++ second = before ++ e :: after) :
    (∃ rest, first = before ++ e :: rest ∧ after = rest ++ second) ∨
      ∃ between, before = first ++ between ∧ second = between ++ e :: after := by
  rcases List.append_eq_append_iff.1 h with ⟨between, hbefore, hsecond⟩ | ⟨rest, hfirst, hrest⟩
  · exact .inr ⟨between, hbefore, hsecond⟩
  · cases rest with
    | nil => exact .inr ⟨[], by simpa using hfirst.symm, hrest.symm⟩
    | cons x rest =>
      obtain ⟨rfl, hafter⟩ := List.cons.inj hrest
      exact .inl ⟨rest, hfirst, hafter⟩

/-- Every event of a history is as said of what came before it. -/
def Justified (q : List Event → Event → Prop) (history : List Event) : Prop :=
  ∀ before e after, history = before ++ e :: after → q before e

theorem justified_nil {q : List Event → Event → Prop} : Justified q [] := by
  intro before e after h
  simp at h

theorem Justified.append {q : List Event → Event → Prop} {history more : List Event}
    (h : Justified q history)
    (next : ∀ before e after, more = before ++ e :: after → q (history ++ before) e) :
    Justified q (history ++ more) := by
  intro before e after split
  rcases append_eq_cases split with ⟨rest, inside, -⟩ | ⟨between, rfl, inside⟩
  · exact h before e rest inside
  · exact next between e after inside

theorem Justified.concat {q : List Event → Event → Prop} {history : List Event} {e : Event}
    (h : Justified q history) (last : q history e) : Justified q (history ++ [e]) := by
  apply h.append
  intro before e' after split
  cases before with
  | nil =>
    obtain ⟨rfl, -⟩ := List.cons.inj split
    rwa [List.append_nil]
  | cons x before => simp at split

/-- A history is a run of a job, from its first effect to its value. -/
def Ran : Job α → List Event → α → Prop
  | done value, history, outcome => history = [] ∧ outcome = value
  | ask effect next, history, outcome =>
    ∃ answer rest, history = ⟨effect, answer⟩ :: rest ∧ (next answer).Ran rest outcome

/-- A job adds a run of its own to what was asked for so far. -/
theorem ends_ran (job : Job α) (w : List Event) :
    job.Ends recording w fun a w' => ∃ during, w' = w ++ during ∧ job.Ran during a := by
  induction job generalizing w with
  | done value => exact ⟨[], (List.append_nil w).symm, rfl, rfl⟩
  | ask effect next ih =>
    rintro answer _ rfl
    refine (ih answer (w ++ [⟨effect, answer⟩])).mono ?_
    rintro a _ ⟨during, rfl, ran⟩
    exact ⟨⟨effect, answer⟩ :: during, List.append_assoc .., answer, during, rfl, ran⟩

/-- No run of a job goes on where another one has ended. -/
theorem Ran.unique {job : Job α} {during during' after after' : List Event} {a a' : α}
    (h : job.Ran during a) (h' : job.Ran during' a')
    (same : during ++ after = during' ++ after') : during = during' ∧ a = a' := by
  induction job generalizing during during' with
  | done value =>
    obtain ⟨rfl, rfl⟩ := h
    obtain ⟨rfl, rfl⟩ := h'
    exact ⟨rfl, rfl⟩
  | ask effect next ih =>
    obtain ⟨answer, rest, rfl, h⟩ := h
    obtain ⟨answer', rest', rfl, h'⟩ := h'
    rw [List.cons_append, List.cons_append, List.cons.injEq] at same
    obtain ⟨first, same⟩ := same
    obtain rfl : answer = answer' := eq_of_heq (Sigma.mk.inj first).2
    obtain ⟨rfl, rfl⟩ := ih answer h h' same
    exact ⟨rfl, rfl⟩

/-- Every call of a job is as said. -/
def Asks (p : Effect → Prop) : Job α → Prop
  | done _ => True
  | ask effect next => (effect.isCall = true → p effect) ∧ ∀ answer, (next answer).Asks p

variable {p : Effect → Prop}

theorem asks_bind {job : Job α} {f : α → Job β} (h : job.Asks p) (next : ∀ a, (f a).Asks p) :
    (job >>= f).Asks p := by
  change (job.bind f).Asks p
  induction job with
  | done value => exact next value
  | ask effect after ih => exact ⟨h.1, fun answer => ih answer (h.2 answer)⟩

theorem asks_log {level : Log.Level} {target message : String}
    {details : List (String × String)} : (log level target message details).Asks p :=
  ⟨by simp [Effect.isCall], fun _ => trivial⟩

theorem asks_pause {span : Span} : (pause span).Asks p :=
  ⟨by simp [Effect.isCall], fun _ => trivial⟩

/-- The calls of a run are as said of the job. -/
theorem Ran.asks {job : Job α} {during : List Event} {a : α} (ran : job.Ran during a)
    (h : job.Asks p) : ∀ e ∈ during, e.1.isCall = true → p e.1 := by
  induction job generalizing during with
  | done value =>
    obtain ⟨rfl, -⟩ := ran
    exact fun e he => nomatch he
  | ask effect next ih =>
    obtain ⟨answer, rest, rfl, ran⟩ := ran
    intro e he
    rcases List.mem_cons.1 he with rfl | he
    · exact h.1
    · exact ih answer ran (h.2 answer) e he

/-- What all such calls keep holds at the end. -/
theorem Asks.ends {job : Job α} {w : List Event} {inv : List Event → Prop} (h : job.Asks p)
    (step : ∀ w e, inv w → (e.1.isCall = true → p e.1) → inv (w ++ [e])) (hw : inv w) :
    job.Ends recording w fun _ => inv := by
  induction job generalizing w with
  | done value => exact hw
  | ask effect next ih =>
    rintro answer _ rfl
    exact ih answer (h.2 answer) (step w ⟨effect, answer⟩ hw h.1)

end Job

namespace Task

open Job (Event recording)

variable {p : Effect → Prop}

/-- Every call of a task is as said. -/
def Asks (p : Effect → Prop) (task : Task α) : Prop := task.attempt.Asks p

theorem asks_pure (a : α) : (pure a : Task α).Asks p := trivial

theorem asks_fail (failure : Failure) : (fail failure : Task α).Asks p := trivial

theorem asks_index {call : Index.Call} (h : p (.index call)) : (Task.index call).Asks p :=
  ⟨fun _ => h, fun _ => trivial⟩

theorem asks_always {job : Job α} (h : job.Asks p) : (always job).Asks p :=
  Job.asks_bind h fun _ => trivial

theorem asks_bind {task : Task α} {f : α → Task β} (h : task.Asks p)
    (next : ∀ a, (f a).Asks p) : (task >>= f).Asks p :=
  Job.asks_bind h fun outcome =>
    match outcome with
    | .ok a => next a
    | .error _ => trivial

theorem Asks.withContext {task : Task α} {text : String} (h : task.Asks p) :
    (task.withContext text).Asks p :=
  Job.asks_bind h fun _ => trivial

theorem Asks.attempts {task : Task α} (h : task.Asks p) (policy : Retry.Policy) (name : String)
    (made left : Nat) : (Retry.attempts policy name task made left).Asks p := by
  induction left generalizing made with
  | zero =>
    refine Job.asks_bind h fun outcome => ?_
    cases outcome with
    | ok a => trivial
    | error f =>
      dsimp only
      split
      · trivial
      · exact Job.asks_bind Job.asks_log fun _ => trivial
  | succ left ih =>
    refine Job.asks_bind h fun outcome => ?_
    cases outcome with
    | ok a => trivial
    | error f =>
      dsimp only
      split
      · trivial
      · exact Job.asks_bind Job.asks_log fun _ =>
          Job.asks_bind Job.asks_pause fun _ => ih (made + 1)

/-- Retries ask for nothing else. -/
theorem Asks.withTimeoutRetry {task : Task α} (h : task.Asks p) (client : Index.Client)
    (name : String) : (client.withTimeoutRetry name task).Asks p :=
  Job.asks_bind (h.attempts _ name 0 _) fun outcome =>
    match outcome with
    | .ok _ => trivial
    | .error _ => trivial

/-- What all such calls keep holds however a task ends. -/
theorem Asks.ends {task : Task α} {w : List Event} {inv : List Event → Prop} (h : task.Asks p)
    (step : ∀ w e, inv w → (e.1.isCall = true → p e.1) → inv (w ++ [e])) (hw : inv w) :
    task.Ends recording w (fun _ => inv) fun _ => inv :=
  (Job.Asks.ends h step hw).mono fun outcome _ h =>
    match outcome with
    | .ok _ => h
    | .error _ => h

/-- Some part of a history is a run of a task that returned a value. -/
def Succeeded (task : Task α) (history : List Event) : Prop :=
  ∃ before during after value, history = before ++ during ++ after ∧
    task.attempt.Ran during (.ok value)

theorem Succeeded.append {task : Task α} {history : List Event} (h : task.Succeeded history)
    (more : List Event) : task.Succeeded (history ++ more) := by
  obtain ⟨before, during, after, value, rfl, ran⟩ := h
  exact ⟨before, during, after ++ more, value, List.append_assoc .., ran⟩

theorem succeeded_of_ran {task : Task α} {during : List Event} {value : α}
    (ran : task.attempt.Ran during (.ok value)) (before : List Event) :
    task.Succeeded (before ++ during) :=
  ⟨before, during, [], value, (List.append_nil _).symm, ran⟩

end Task

end CatalogSearch
