import CatalogSearch.Index.Memory
import CatalogSearch.Proofs.Job.Quiet

/-!
# Jobs on a store and an index in memory

A scene is what a job can change: the index and the progress reported so far. Calls are answered
by the store and the index in memory; where faults may strike, any call may fail instead, before
it took effect or after, but not for want of the thing asked for. A task that is retried starts
every attempt in a scene in which an earlier attempt may have left something behind.
-/
namespace CatalogSearch

/-- What a job can change. -/
structure Scene where
  index : Index.Memory
  events : List Progress

/-- A fault in place of an answer; it never says that something is absent. -/
def Struck {α : Type} (faulty : Prop) (answer : Except Failure α) : Prop :=
  faulty ∧ ∃ f : Failure, answer = .error f ∧ f.isNotFound = false

/-- Calls to a store and an index in memory, possibly under faults. -/
def inMemory (store : Store.Memory) (faulty : Prop) : Semantics Scene
  | .store call, w, answer, w' => w' = w ∧ (answer = store.answer call ∨ Struck faulty answer)
  | .index call, w, answer, w' =>
    (answer = (w.index.answer call).1 ∧ w' = ⟨(w.index.answer call).2, w.events⟩) ∨
    (Struck faulty answer ∧ (w' = w ∨ w' = ⟨(w.index.answer call).2, w.events⟩))
  | .report event, w, _, w' => w' = ⟨w.index, w.events ++ [event]⟩
  | .pause _, w, _, w' => w' = w
  | .log _, w, _, w' => w' = w

variable {α : Type} {store : Store.Memory} {faulty : Prop} {w : Scene}

namespace Job

theorem ends_log {level : Log.Level} {target message : String} {details : List (String × String)}
    {post : Unit → Scene → Prop} (h : post () w) :
    (log level target message details).Ends (inMemory store faulty) w post :=
  fun _ _ step => step ▸ h

theorem ends_report {event : Progress} {post : Unit → Scene → Prop}
    (h : post () ⟨w.index, w.events ++ [event]⟩) :
    (report event).Ends (inMemory store faulty) w post :=
  fun _ _ step => step ▸ h

end Job

namespace Task

/-- The store answers as it does, or a fault strikes; the scene stays as it is. -/
theorem ends_store {call : Store.Call} {value : call.Answer} (h : store.answer call = .ok value) :
    (Task.store call).Ends (inMemory store faulty) w (fun a w' => a = value ∧ w' = w)
      (fun _ w' => faulty ∧ w' = w) := by
  intro answer w' h
  obtain ⟨rfl, rfl | ⟨hfaulty, f, rfl, -⟩⟩ := h
  · rw [h]
    exact ⟨rfl, rfl⟩
  · exact ⟨hfaulty, rfl⟩

/-- The index answers as it does and changes as it does. Where a fault strikes, it may have
changed all the same. -/
theorem ends_index (call : Index.Call) :
    (Task.index call).Ends (inMemory store faulty) w
      (fun a w' => (w.index.answer call).1 = .ok a ∧ w' = ⟨(w.index.answer call).2, w.events⟩)
      (fun f w' =>
        ((w.index.answer call).1 = .error f ∧ w' = ⟨(w.index.answer call).2, w.events⟩) ∨
        (faulty ∧ f.isNotFound = false ∧
          (w' = w ∨ w' = ⟨(w.index.answer call).2, w.events⟩))) := by
  intro answer w' h
  rcases h with ⟨rfl, hw⟩ | ⟨⟨hfaulty, f, rfl, hf⟩, hw⟩
  · cases (w.index.answer call).1 with
    | ok a => exact ⟨rfl, hw⟩
    | error f => exact .inl ⟨rfl, hw⟩
  · exact .inr ⟨hfaulty, hf, hw⟩

/-- An index that answers a request answers it so; only faults keep it from that. -/
theorem ends_index_ok {call : Index.Call} {value : call.Answer} {after : Index.Memory}
    (h : w.index.answer call = (.ok value, after)) :
    (Task.index call).Ends (inMemory store faulty) w
      (fun a w' => a = value ∧ w' = ⟨after, w.events⟩)
      (fun f w' => faulty ∧ f.isNotFound = false ∧ (w' = w ∨ w' = ⟨after, w.events⟩)) := by
  refine (ends_index call).mono (fun a w' ⟨ha, hw⟩ => ?_) fun f w' hf => ?_
  · rw [h] at ha hw
    exact ⟨(Except.ok.inj ha).symm, hw⟩
  · rw [h] at hf
    exact hf.resolve_left fun ⟨hne, _⟩ => by cases hne

/-- An index that refuses a request does not answer it. -/
theorem ends_index_error {call : Index.Call} {error : Failure} {after : Index.Memory}
    (h : w.index.answer call = (.error error, after)) :
    (Task.index call).Ends (inMemory store faulty) w (fun _ _ => False)
      (fun f w' => (f = error ∧ w' = ⟨after, w.events⟩) ∨
        (faulty ∧ f.isNotFound = false ∧ (w' = w ∨ w' = ⟨after, w.events⟩))) := by
  refine (ends_index call).mono (fun a w' ⟨ha, _⟩ => ?_) fun f w' hf => ?_
  · rw [h] at ha
    cases ha
  · rw [h] at hf
    exact hf.imp_left fun ⟨hf, hw⟩ => ⟨(Except.error.inj hf).symm, hw⟩

end Task

/-- Notes and pauses change nothing in a scene. -/
theorem idle_inMemory (inv : Scene → Prop) : Idle (inMemory store faulty) inv where
  log _ _ _ _ step h := step ▸ h
  pause _ _ _ _ step h := step ▸ h

section Retries

variable {inv : Scene → Prop} {task : Task α} {good : α → Scene → Prop}
  {bad : Failure → Scene → Prop}

/-- A task each of whose failed attempts leaves a scene to start from ends as one attempt does. -/
theorem Retry.run_ends (policy : Policy) (name : String)
    (each : ∀ w, inv w →
      task.Ends (inMemory store faulty) w good fun f w' => bad f w' ∧ inv w') (hw : inv w) :
    (run policy name task).Ends (inMemory store faulty) w fun
      | .ok a, w' => good a w'
      | .error given, w' => bad given.failure w' ∧ inv w' := by
  refine (Idle.retry_ends (fun _ => idle_inMemory _) policy name each hw).mono fun outcome _ h => ?_
  cases outcome with
  | ok a => exact h
  | error given => exact h

/-- The client's own retries end as one attempt does. -/
theorem Index.Client.withTimeoutRetry_ends (client : Client) (name : String)
    (each : ∀ w, inv w →
      task.Ends (inMemory store faulty) w good fun f w' => bad f w' ∧ inv w') (hw : inv w) :
    (client.withTimeoutRetry name task).Ends (inMemory store faulty) w good
      fun f w' => bad f w' ∧ inv w' :=
  Idle.withTimeoutRetry_ends (fun _ => idle_inMemory _) client name each hw

end Retries

end CatalogSearch
