import CatalogSearch.Index.Client
import CatalogSearch.Proofs.Job.Ends
import CatalogSearch.Store.Memory

/-!
# What jobs leave as it is

Most of what a job asks for changes nothing that matters: notes, pauses, progress and questions to
the store. Whatever all of these keep is kept by everything that is built of them, retries
included, and only requests to the index are left to be looked at.
-/
namespace CatalogSearch

variable {α β ω : Type} {sem : Semantics ω} {w : ω}

/-- A job that cannot fail, in a row with a task. -/
theorem Job.Ends.always_bind {job : Job α} {f : α → Task β} {mid : α → ω → Prop}
    {good : β → ω → Prop} {bad : Failure → ω → Prop} (h : job.Ends sem w mid)
    (next : ∀ a w', mid a w' → (f a).Ends sem w' good bad) :
    (Task.always job >>= f).Ends sem w good bad :=
  Task.ends_bind.2 (Task.ends_always.2 (h.mono next))

/-- Notes for the operator and pauses keep something. -/
structure Idle (sem : Semantics ω) (inv : ω → Prop) : Prop where
  log : ∀ entry w answer w', sem (.log entry) w answer w' → inv w → inv w'
  pause : ∀ span w answer w', sem (.pause span) w answer w' → inv w → inv w'

namespace Idle

variable {inv : ω → Prop}

theorem log_ends (idle : Idle sem inv) {level : Log.Level} {target message : String}
    {details : List (String × String)} (hw : inv w) :
    (Job.log level target message details).Ends sem w fun _ => inv :=
  fun answer w' step => idle.log _ w answer w' step hw

theorem pause_ends (idle : Idle sem inv) {span : Span} (hw : inv w) :
    (Job.pause span).Ends sem w fun _ => inv :=
  fun answer w' step => idle.pause _ w answer w' step hw

theorem logAllRejected_ends (idle : Idle sem inv) (errors : List ItemError) (hw : inv w) :
    (Index.Client.logAllRejected errors).Ends sem w fun _ => inv := by
  induction errors generalizing w with
  | nil => exact hw
  | cons error rest ih => exact Job.ends_bind.2 ((idle.log_ends hw).mono fun _ _ h => ih h)

/-- What does not change is kept along. -/
theorem and_left (idle : Idle sem inv) (fact : Prop) : Idle sem fun w => fact ∧ inv w where
  log entry w answer w' step h := ⟨h.1, idle.log entry w answer w' step h.2⟩
  pause span w answer w' step h := ⟨h.1, idle.pause span w answer w' step h.2⟩

variable {task : Task α} {good : α → ω → Prop} {bad : Failure → ω → Prop}

/-- A task each of whose failed attempts leaves a scene to start from ends as one attempt does. -/
theorem attempts_ends (idle : ∀ f, Idle sem fun w => bad f w ∧ inv w) (policy : Retry.Policy)
    (name : String)
    (each : ∀ w, inv w → task.Ends sem w good fun f w' => bad f w' ∧ inv w') (made left : Nat)
    (hw : inv w) :
    (Retry.attempts policy name task made left).Ends sem w fun
      | .ok a, w' => good a w'
      | .error given, w' => bad given.failure w' ∧ inv w' := by
  induction left generalizing made w with
  | zero =>
    refine Job.ends_bind.2 ((each w hw).attempt (fun a w' h => h) fun f w' h => ?_)
    dsimp only
    split
    · exact h
    · exact Job.ends_bind.2 (((idle f).log_ends h).mono fun _ _ h => h)
  | succ left ih =>
    refine Job.ends_bind.2 ((each w hw).attempt (fun a w' h => h) fun f w' h => ?_)
    dsimp only
    split
    · exact h
    · refine Job.ends_bind.2 (((idle f).log_ends h).mono fun _ _ h => ?_)
      exact Job.ends_bind.2 (((idle f).pause_ends h).mono fun _ _ h => ih (made + 1) h.2)

theorem retry_ends (idle : ∀ f, Idle sem fun w => bad f w ∧ inv w) (policy : Retry.Policy)
    (name : String)
    (each : ∀ w, inv w → task.Ends sem w good fun f w' => bad f w' ∧ inv w') (hw : inv w) :
    (Retry.run policy name task).Ends sem w fun
      | .ok a, w' => good a w'
      | .error given, w' => bad given.failure w' ∧ inv w' :=
  attempts_ends idle policy name each 0 policy.maxRetries hw

/-- The client's own retries end as one attempt does. -/
theorem withTimeoutRetry_ends (idle : ∀ f, Idle sem fun w => bad f w ∧ inv w)
    (client : Index.Client) (name : String)
    (each : ∀ w, inv w → task.Ends sem w good fun f w' => bad f w' ∧ inv w') (hw : inv w) :
    (client.withTimeoutRetry name task).Ends sem w good fun f w' => bad f w' ∧ inv w' := by
  refine Job.ends_bind.2 ((retry_ends idle _ name each hw).mono fun outcome w' h => ?_)
  cases outcome with
  | ok a => exact h
  | error given => exact h

end Idle

/-- Whatever is not asked of the index keeps something, and the store answers as it does unless a
fault keeps it from that. -/
structure Quiet (store : Store.Memory) (faulty : Prop) (sem : Semantics ω) (inv : ω → Prop) : Prop
    extends Idle sem inv where
  report : ∀ event w answer w', sem (.report event) w answer w' → inv w → inv w'
  store : ∀ call w answer w', sem (.store call) w answer w' → inv w →
    inv w' ∧ (answer = store.answer call ∨ faulty ∧ ∃ f, answer = .error f)

namespace Quiet

variable {store : Store.Memory} {faulty : Prop} {inv : ω → Prop}

theorem report_ends (quiet : Quiet store faulty sem inv) {event : Progress} (hw : inv w) :
    (Job.report event).Ends sem w fun _ => inv :=
  fun answer w' step => quiet.report _ w answer w' step hw

/-- The store answers as it does, or a fault strikes. -/
theorem store_ends (quiet : Quiet store faulty sem inv) {call : Store.Call} {value : call.Answer}
    (h : store.answer call = .ok value) (hw : inv w) :
    (Task.store call).Ends sem w (fun a w' => a = value ∧ inv w')
      fun _ w' => faulty ∧ inv w' := by
  intro answer w' step
  obtain ⟨hw', rfl | ⟨hfaulty, f, rfl⟩⟩ := quiet.store call w answer w' step hw
  · rw [h]
    exact ⟨rfl, hw'⟩
  · exact ⟨hfaulty, hw'⟩

/-- What can be tried again where it failed is done in the end, or a fault strikes. -/
theorem retry_ends (quiet : Quiet store faulty sem inv) {task : Task α} {good : α → ω → Prop}
    (policy : Retry.Policy) (name : String)
    (each : ∀ w, inv w → task.Ends sem w good fun _ w' => faulty ∧ inv w') (hw : inv w) :
    (Retry.run policy name task).Ends sem w fun
      | .ok a, w' => good a w'
      | .error _, w' => faulty ∧ inv w' :=
  Idle.retry_ends (fun _ => quiet.toIdle.and_left faulty) policy name each hw

/-- The client's own retries are no different. -/
theorem withTimeoutRetry_ends (quiet : Quiet store faulty sem inv) {task : Task α}
    {good : α → ω → Prop} (client : Index.Client) (name : String)
    (each : ∀ w, inv w → task.Ends sem w good fun _ w' => faulty ∧ inv w') (hw : inv w) :
    (client.withTimeoutRetry name task).Ends sem w good fun _ w' => faulty ∧ inv w' := by
  exact Idle.withTimeoutRetry_ends (fun _ => quiet.toIdle.and_left faulty) client name each hw

end Quiet

end CatalogSearch
