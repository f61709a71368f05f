import CatalogSearch.Proofs.Job.Trace
import Mathlib.Algebra.Ring.Nat

/-!
# Histories beside scenes

A semantics can be recorded: the scene is then paired with all that was asked for so far. What is
said of a job under a semantics holds beside the history that the job adds, and what is said of a
recorded job holds of the trace and of the last state of its run. Notes for the operator left out, a
history may be made of blocks with a pause between each two of them.
-/
namespace CatalogSearch.Job

variable {α σ ω : Type} {sem : Semantics ω}

/-- A semantics beside the history of what was asked for. -/
def recorded (sem : Semantics ω) : Semantics (List Event × ω) := fun effect w answer w' =>
  w'.1 = w.1 ++ [⟨effect, answer⟩] ∧ sem effect w.2 answer w'.2

/-- What is said of a job holds beside the run that it adds to the history. -/
theorem Ends.recorded {job : Job α} {w : ω} {post : α → ω → Prop} (h : job.Ends sem w post)
    (history : List Event) :
    job.Ends (recorded sem) (history, w) fun a w' =>
      (∃ during, w'.1 = history ++ during ∧ job.Ran during a) ∧ post a w'.2 := by
  induction job generalizing history w with
  | done value => exact ⟨⟨[], (List.append_nil history).symm, rfl, rfl⟩, h⟩
  | ask effect next ih =>
    rintro answer ⟨_, w₁⟩ ⟨rfl, step⟩
    refine (ih answer (h answer w₁ step) _).mono ?_
    rintro a ⟨_, w₂⟩ ⟨⟨during, rfl, ran⟩, last⟩
    exact ⟨⟨_, List.append_assoc .., answer, during, rfl, ran⟩, last⟩

/-- What is said of a recorded job is true of the trace of its run and of the state it leaves. -/
theorem Ends.traced {handler : Handler σ} {shown : σ → ω → Prop}
    (follows : Follows handler shown sem) {job : Job α} {s : σ} {w : ω} {history : List Event}
    {post : α → List Event × ω → Prop} (hs : shown s w)
    (h : job.Ends (Job.recorded sem) (history, w) post) :
    ∃ w', shown (job.run handler s).2 w' ∧
      post (job.run handler s).1 (history ++ job.trace handler s, w') := by
  induction job generalizing s w history with
  | done value =>
    rw [Job.trace, List.append_nil]
    exact ⟨w, hs, h⟩
  | ask effect next ih =>
    obtain ⟨w₁, step, hs₁⟩ := follows effect s w hs
    obtain ⟨w₂, hs₂, last⟩ := ih (handler effect s).1 hs₁ (h _ (_, w₁) ⟨rfl, step⟩)
    rw [List.append_assoc, List.singleton_append] at last
    exact ⟨w₂, hs₂, last⟩

/-- Every effect is answered as a handler answers it, and the scene is the handler's state. -/
def answeredBy (handler : Handler σ) : Semantics σ := fun effect s answer s' =>
  (answer, s') = handler effect s

theorem follows_answeredBy (handler : Handler σ) :
    Follows handler (· = ·) (answeredBy handler) := by
  rintro effect s _ rfl
  exact ⟨(handler effect s).2, rfl, rfl⟩

/-- Under one handler, a job ends in one way only. -/
theorem ends_answeredBy {handler : Handler σ} {job : Job α} {s : σ} {post : α → σ → Prop}
    (h : post (job.run handler s).1 (job.run handler s).2) :
    job.Ends (answeredBy handler) s post := by
  induction job generalizing s with
  | done value => exact h
  | ask effect next ih =>
    rintro answer s' step
    obtain ⟨rfl, rfl⟩ := Prod.mk.inj step
    exact ih _ h

def unnoted (history : List Event) : List Event :=
  history.filter fun e => match e.1 with
    | .log _ => false
    | _ => true

@[simp] theorem unnoted_append (history more : List Event) :
    unnoted (history ++ more) = unnoted history ++ unnoted more :=
  List.filter_append ..

@[simp] theorem unnoted_log (entry : Log.Entry) (answer : (Effect.log entry).Answer)
    (history : List Event) : unnoted (⟨.log entry, answer⟩ :: history) = unnoted history := rfl

@[simp] theorem unnoted_pause (span : Span) (history : List Event) :
    unnoted (⟨.pause span, ()⟩ :: history) = ⟨.pause span, ()⟩ :: unnoted history := rfl

@[simp] theorem unnoted_index (call : Index.Call) (answer : Except Failure call.Answer)
    (history : List Event) :
    unnoted (⟨.index call, answer⟩ :: history) = ⟨.index call, answer⟩ :: unnoted history := rfl

@[simp] theorem unnoted_nil : unnoted [] = [] := rfl

/-- Of what is no note, nothing is left out. -/
theorem countP_unnoted {p : Event → Bool} (note : ∀ entry answer, p ⟨.log entry, answer⟩ = false)
    (history : List Event) : (unnoted history).countP p = history.countP p := by
  rw [unnoted, List.countP_filter]
  refine List.countP_congr fun e _ => ?_
  obtain ⟨effect, answer⟩ := e
  cases effect with
  | log entry => simp [note]
  | _ => simp

/-- Blocks of events with a pause between each two of them; the pauses are counted from `k`. -/
def paced (delay : Nat → Span) : Nat → List (List Event) → List Event
  | _, [] => []
  | _, [block] => block
  | k, block :: next :: rest =>
    block ++ ⟨.pause (delay k), ()⟩ :: paced delay (k + 1) (next :: rest)

/-- One more block in front, if there are others. -/
theorem paced_cons {delay : Nat → Span} {k : Nat} {block : List Event} {rest : List (List Event)}
    (some : rest ≠ []) :
    paced delay k (block :: rest) =
      block ++ ⟨.pause (delay k), ()⟩ :: paced delay (k + 1) rest := by
  cases rest with
  | nil => exact absurd rfl some
  | cons next rest => rfl

/-- What is no pause stands in one of the blocks. -/
theorem countP_paced {p : Event → Bool} (pause : ∀ span answer, p ⟨.pause span, answer⟩ = false)
    (delay : Nat → Span) (k : Nat) (blocks : List (List Event)) :
    (paced delay k blocks).countP p = (blocks.map (·.countP p)).sum := by
  induction blocks generalizing k with
  | nil => rfl
  | cons block rest ih =>
    cases rest with
    | nil => simp [paced]
    | cons next rest => simp [paced, pause, ih]

end CatalogSearch.Job
