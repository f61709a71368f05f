import CatalogSearch.Proofs.Job.Trace

/-!
# Jobs that keep to some effects

A job is confined to some effects if it asks for no others, notes and pauses included. Whatever each
of these effects keeps is kept by the job, and a run of the job consists of them.
-/
namespace CatalogSearch

variable {α β ω : Type} {sem : Semantics ω} {p : Effect → Prop}

namespace Job

/-- A job asks only for effects as said. -/
def Confined (p : Effect → Prop) : Job α → Prop
  | done _ => True
  | ask effect next => p effect ∧ ∀ answer, (next answer).Confined p

theorem confined_bind {job : Job α} {f : α → Job β} (h : job.Confined p)
    (next : ∀ a, (f a).Confined p) : (job >>= f).Confined p := by
  change (job.bind f).Confined p
  induction job with
  | done value => exact next value
  | ask effect after ih => exact ⟨h.1, fun answer => ih answer (h.2 answer)⟩

theorem confined_perform {effect : Effect} (h : p effect) : (perform effect).Confined p :=
  ⟨h, fun _ => trivial⟩

/-- Every job is confined to all effects. -/
theorem confined_true (job : Job α) : job.Confined fun _ => True := by
  induction job with
  | done value => trivial
  | ask effect next ih => exact ⟨trivial, ih⟩

/-- What is said of all effects is said of the calls among them. -/
theorem Confined.asks {job : Job α} (h : job.Confined fun e => e.isCall = true → p e) :
    job.Asks p := by
  induction job with
  | done value => trivial
  | ask effect next ih => exact ⟨h.1, fun answer => ih answer (h.2 answer)⟩

/-- What the effects of a job keep holds at its end. -/
theorem Confined.ends {job : Job α} {w : ω} {inv : ω → Prop} (h : job.Confined p)
    (step : ∀ effect w answer w', p effect → sem effect w answer w' → inv w → inv w')
    (hw : inv w) : job.Ends sem w fun _ => inv := by
  induction job generalizing w with
  | done value => exact hw
  | ask effect next ih =>
    intro answer w' hstep
    exact ih answer (h.2 answer) (step effect w answer w' h.1 hstep hw)

end Job

namespace Task

/-- A task asks only for effects as said. -/
def Confined (p : Effect → Prop) (task : Task α) : Prop := task.attempt.Confined p

theorem confined_pure (a : α) : (pure a : Task α).Confined p := trivial

theorem confined_fail (failure : Failure) : (fail failure : Task α).Confined p := trivial

theorem confined_index {call : Index.Call} (h : p (.index call)) :
    (Task.index call).Confined p :=
  Job.confined_perform h

theorem confined_always {job : Job α} (h : job.Confined p) : (always job).Confined p :=
  Job.confined_bind h fun _ => trivial

theorem confined_bind {task : Task α} {f : α → Task β} (h : task.Confined p)
    (next : ∀ a, (f a).Confined p) : (task >>= f).Confined p :=
  Job.confined_bind h fun outcome =>
    match outcome with
    | .ok a => next a
    | .error _ => trivial

theorem Confined.withContext {task : Task α} {text : String} (h : task.Confined p) :
    (task.withContext text).Confined p :=
  Job.confined_bind h fun _ => trivial

theorem Confined.asks {task : Task α} (h : task.Confined fun e => e.isCall = true → p e) :
    task.Asks p :=
  Job.Confined.asks h

/-- What the effects of a task keep holds however it ends. -/
theorem Confined.ends {task : Task α} {w : ω} {inv : ω → Prop} (h : task.Confined p)
    (step : ∀ effect w answer w', p effect → sem effect w answer w' → inv w → inv w')
    (hw : inv w) : task.Ends sem w (fun _ => inv) fun _ => inv :=
  (Job.Confined.ends h step hw).mono fun outcome _ kept =>
    match outcome with
    | .ok _ => kept
    | .error _ => kept

/-- Retries add notes about attempts, and pauses. -/
theorem Confined.attempts {task : Task α} (h : task.Confined p)
    (note : ∀ entry : Log.Entry, entry.target = Retry.logTarget → p (.log entry))
    (pause : ∀ span, p (.pause span)) (policy : Retry.Policy) (name : String) (made left : Nat) :
    (Retry.attempts policy name task made left).Confined p := by
  induction left generalizing made with
  | zero =>
    refine Job.confined_bind h fun outcome => ?_
    cases outcome with
    | ok a => trivial
    | error f =>
      dsimp only
      split
      · trivial
      · exact Job.confined_bind (Job.confined_perform (note _ rfl)) fun _ => trivial
  | succ left ih =>
    refine Job.confined_bind h fun outcome => ?_
    cases outcome with
    | ok a => trivial
    | error f =>
      dsimp only
      split
      · trivial
      · exact Job.confined_bind (Job.confined_perform (note _ rfl)) fun _ =>
          Job.confined_bind (Job.confined_perform (pause _)) fun _ => ih (made + 1)

theorem Confined.withTimeoutRetry {task : Task α} (h : task.Confined p)
    (note : ∀ entry : Log.Entry, entry.target = Retry.logTarget → p (.log entry))
    (pause : ∀ span, p (.pause span)) (client : Index.Client) (name : String) :
    (client.withTimeoutRetry name task).Confined p :=
  Job.confined_bind (h.attempts note pause _ name 0 _) fun outcome =>
    match outcome with
    | .ok _ => trivial
    | .error _ => trivial

end Task

end CatalogSearch
