import CatalogSearch.Index.Call
import CatalogSearch.Log.Entry
import CatalogSearch.Progress
import CatalogSearch.Time.Span

/-!
# Jobs

A job is a tree: it is done with a value, or it asks for one effect and goes on with the answer.
What an effect does is left to a handler, so that one job can run against any store and index,
under any schedule of failures, and step by step beside other jobs.
-/
namespace CatalogSearch

inductive Effect where
  | store (call : Store.Call)
  | index (call : Index.Call)
  | pause (span : Span)
  | report (event : Progress)
  | log (entry : Log.Entry)

abbrev Effect.Answer : Effect → Type
  | .store call => Except Failure call.Answer
  | .index call => Except Failure call.Answer
  | .pause _ => Unit
  | .report _ => Unit
  | .log _ => Unit

inductive Job (α : Type) : Type where
  | done (value : α)
  | ask (effect : Effect) (next : effect.Answer → Job α)

namespace Job

variable {α β γ σ : Type}

def bind (job : Job α) (f : α → Job β) : Job β :=
  match job with
  | done value => f value
  | ask effect next => ask effect fun answer => (next answer).bind f

instance : Monad Job where
  pure := done
  bind := bind

def perform (effect : Effect) : Job effect.Answer :=
  ask effect done

def pause (span : Span) : Job Unit := perform (.pause span)

def report (event : Progress) : Job Unit := perform (.report event)

def log (level : Log.Level) (target message : String) (details : List (String × String)) :
    Job Unit :=
  perform (.log ⟨level, target, message, details⟩)

/-- A handler: how each effect is answered and what it does to a state. -/
abbrev Handler (σ : Type) : Type := (effect : Effect) → σ → effect.Answer × σ

def run (handler : Handler σ) : Job α → σ → α × σ
  | done value, state => (value, state)
  | ask effect next, state =>
    let (answer, state) := handler effect state
    (next answer).run handler state

/-- Running a finished job changes nothing. -/
@[simp] theorem run_done (handler : Handler σ) (value : α) (state : σ) :
    (done value).run handler state = (value, state) := rfl

/-- Running a question answers it and runs what follows. -/
@[simp] theorem run_ask (handler : Handler σ) (effect : Effect) (next : effect.Answer → Job α)
    (state : σ) :
    (ask effect next).run handler state =
      (next (handler effect state).1).run handler (handler effect state).2 := rfl

/-- Going on with the value alone adds nothing. -/
@[simp] theorem bind_done (job : Job α) : job.bind done = job := by
  induction job with
  | done value => rfl
  | ask effect next ih => exact congrArg (ask effect) (funext ih)

/-- How jobs in a row are grouped does not matter. -/
theorem bind_assoc (job : Job α) (f : α → Job β) (g : β → Job γ) :
    (job.bind f).bind g = job.bind fun a => (f a).bind g := by
  induction job with
  | done value => rfl
  | ask effect next ih => exact congrArg (ask effect) (funext ih)

instance : LawfulMonad Job := LawfulMonad.mk' Job bind_done (fun _ _ => rfl) bind_assoc

/-- Running two jobs in a row runs the second from where the first ended. -/
theorem run_bind (handler : Handler σ) (job : Job α) (f : α → Job β) (state : σ) :
    (job >>= f).run handler state =
      (f (job.run handler state).1).run handler (job.run handler state).2 := by
  change (job.bind f).run handler state = _
  induction job generalizing state with
  | done value => rfl
  | ask effect next ih => exact ih (handler effect state).1 (handler effect state).2

end Job

abbrev Task (α : Type) : Type := ExceptT Failure Job α

namespace Task

variable {α : Type}

def store (call : Store.Call) : Task call.Answer :=
  ExceptT.mk (Job.perform (.store call))

def index (call : Index.Call) : Task call.Answer :=
  ExceptT.mk (Job.perform (.index call))

/-- A job that cannot fail. -/
def always (job : Job α) : Task α :=
  ExceptT.lift job

/-- The outcome of a task, which can no longer fail. -/
def attempt (task : Task α) : Job (Except Failure α) :=
  task.run

def ofOutcome (outcome : Except Failure α) : Task α :=
  ExceptT.mk (pure outcome)

def fail (failure : Failure) : Task α :=
  ofOutcome (.error failure)

/-- A task whose failure says what was being done. -/
def withContext (text : String) (task : Task α) : Task α :=
  ExceptT.mk (do return CatalogSearch.withContext text (← task.attempt))

end Task

end CatalogSearch
