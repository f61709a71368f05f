import CatalogSearch.Job

/-!
# How jobs end

A semantics says which answers an effect may have in a scene and which scene may follow. A job
ends as said if its value and last scene are as said however its effects are answered. A handler
that stays within a semantics brings every job to such an end.
-/
namespace CatalogSearch

variable {α β σ ω : Type}

/-- The answers that an effect may have in a scene, each with a scene that may follow. -/
abbrev Semantics (ω : Type) : Type := (effect : Effect) → ω → effect.Answer → ω → Prop

variable {sem : Semantics ω}

namespace Job

/-- However the effects are answered, the value and the last scene are as said. -/
def Ends (sem : Semantics ω) : Job α → ω → (α → ω → Prop) → Prop
  | done value, w, post => post value w
  | ask effect next, w, post =>
    ∀ answer w', sem effect w answer w' → (next answer).Ends sem w' post

/-- Two jobs in a row end as the second does from where the first ends. -/
theorem ends_bind {job : Job α} {f : α → Job β} {w : ω} {post : β → ω → Prop} :
    (job >>= f).Ends sem w post ↔ job.Ends sem w fun a w' => (f a).Ends sem w' post := by
  change (job.bind f).Ends sem w post ↔ _
  induction job generalizing w with
  | done value => exact Iff.rfl
  | ask effect next ih =>
    exact forall_congr' fun answer => forall_congr' fun w' => imp_congr_right fun _ => ih answer

/-- A job that ends as said ends in every weaker way. -/
theorem Ends.mono {job : Job α} {w : ω} {post post' : α → ω → Prop} (h : job.Ends sem w post)
    (weaker : ∀ a w', post a w' → post' a w') : job.Ends sem w post' := by
  induction job generalizing w with
  | done value => exact weaker value w h
  | ask effect next ih => exact fun answer w' step => ih answer (h answer w' step)

/-- A job that ends in two ways at once. -/
theorem Ends.and {job : Job α} {w : ω} {post post' : α → ω → Prop} (h : job.Ends sem w post)
    (h' : job.Ends sem w post') : job.Ends sem w fun a w' => post a w' ∧ post' a w' := by
  induction job generalizing w with
  | done value => exact ⟨h, h'⟩
  | ask effect next ih =>
    exact fun answer w' step => ih answer (h answer w' step) (h' answer w' step)

/-- What every step keeps holds at the end. -/
theorem Ends.keeps {job : Job α} {w : ω} {post : α → ω → Prop} {inv : ω → Prop}
    (step : ∀ effect w answer w', sem effect w answer w' → inv w → inv w')
    (hw : inv w) (h : job.Ends sem w post) :
    job.Ends sem w fun a w' => post a w' ∧ inv w' := by
  induction job generalizing w with
  | done value => exact ⟨h, hw⟩
  | ask effect next ih =>
    intro answer w' hstep
    exact ih answer (step effect w answer w' hstep hw) (h answer w' hstep)

/-- A handler stays within a semantics: in a state that shows a scene, it answers as the semantics
allows and shows a scene that may follow. -/
def Follows (handler : Handler σ) (shown : σ → ω → Prop) (sem : Semantics ω) : Prop :=
  ∀ effect s w, shown s w →
    ∃ w', sem effect w (handler effect s).1 w' ∧ shown (handler effect s).2 w'

/-- What is said of a job is true of its run. -/
theorem Ends.run {handler : Handler σ} {shown : σ → ω → Prop} (follows : Follows handler shown sem)
    {job : Job α} {s : σ} {w : ω} {post : α → ω → Prop} (hs : shown s w)
    (h : job.Ends sem w post) :
    ∃ w', shown (job.run handler s).2 w' ∧ post (job.run handler s).1 w' := by
  induction job generalizing s w with
  | done value => exact ⟨w, hs, h⟩
  | ask effect next ih =>
    obtain ⟨w', hstep, hs'⟩ := follows effect s w hs
    exact ih (handler effect s).1 hs' (h _ w' hstep)

end Job

namespace Task

/-- However the effects are answered, a task that succeeds does so as `good` says, and one that
fails does so as `bad` says. -/
def Ends (sem : Semantics ω) (task : Task α) (w : ω) (good : α → ω → Prop)
    (bad : Failure → ω → Prop) : Prop :=
  task.attempt.Ends sem w fun
    | .ok a, w' => good a w'
    | .error f, w' => bad f w'

variable {w : ω} {good : α → ω → Prop} {bad : Failure → ω → Prop}

/-- A job that cannot fail ends as it does alone. -/
theorem ends_always {job : Job α} : (always job).Ends sem w good bad ↔ job.Ends sem w good :=
  Job.ends_bind

/-- Two tasks in a row end as the second does from where the first succeeds, or as the first
fails. -/
theorem ends_bind {task : Task α} {f : α → Task β} {good : β → ω → Prop} :
    (task >>= f).Ends sem w good bad ↔
      task.Ends sem w (fun a w' => (f a).Ends sem w' good bad) bad := by
  refine Job.ends_bind.trans (iff_of_eq (congrArg (task.attempt.Ends sem w) ?_))
  funext outcome w'
  cases outcome <;> rfl

/-- A task that ends as said ends in every weaker way. -/
theorem Ends.mono {task : Task α} {good' : α → ω → Prop} {bad' : Failure → ω → Prop}
    (h : task.Ends sem w good bad) (hgood : ∀ a w', good a w' → good' a w')
    (hbad : ∀ f w', bad f w' → bad' f w') : task.Ends sem w good' bad' :=
  Job.Ends.mono h fun outcome w' =>
    match outcome with
    | .ok a => hgood a w'
    | .error f => hbad f w'

/-- A task that ends in two ways at once. -/
theorem Ends.and {task : Task α} {good' : α → ω → Prop} {bad' : Failure → ω → Prop}
    (h : task.Ends sem w good bad) (h' : task.Ends sem w good' bad') :
    task.Ends sem w (fun a w' => good a w' ∧ good' a w') fun f w' => bad f w' ∧ bad' f w' :=
  (Job.Ends.and h h').mono fun outcome _ both =>
    match outcome with
    | .ok _ => both
    | .error _ => both

/-- A task in a row with others, by what is said of it. -/
theorem Ends.bind {task : Task α} {f : α → Task β} {good' : β → ω → Prop}
    {bad' : Failure → ω → Prop} (h : task.Ends sem w good bad)
    (next : ∀ a w', good a w' → (f a).Ends sem w' good' bad')
    (hbad : ∀ f w', bad f w' → bad' f w') : (task >>= f).Ends sem w good' bad' :=
  ends_bind.2 (h.mono next hbad)

/-- A context changes no more than the failure. -/
theorem Ends.withContext {task : Task α} {text : String} {last : ω → Prop}
    (h : task.Ends sem w good fun _ w' => last w') :
    (task.withContext text).Ends sem w good fun _ w' => last w' := by
  refine Job.ends_bind.2 (Job.Ends.mono h fun outcome w' h => ?_)
  cases outcome with
  | ok a => exact h
  | error f => exact h

/-- The outcome of a task is a value that tells success from failure. -/
theorem Ends.attempt {task : Task α} (h : task.Ends sem w good bad)
    {post : Except Failure α → ω → Prop} (hgood : ∀ a w', good a w' → post (.ok a) w')
    (hbad : ∀ f w', bad f w' → post (.error f) w') : task.attempt.Ends sem w post :=
  Job.Ends.mono h fun outcome w' =>
    match outcome with
    | .ok a => hgood a w'
    | .error f => hbad f w'

end Task

end CatalogSearch
