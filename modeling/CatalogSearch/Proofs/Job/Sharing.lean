import CatalogSearch.Proofs.Job.Interleaving
import CatalogSearch.Proofs.Job.Ends

/-!
# Jobs that share a state

Between two turns of a job the others change the state on which it runs. Each job keeps to some
effects, and this is what the others rely on: whatever they do, some of what the job has found or
brought about remains. What is said of each job on its own, with such changes in between, is then
true of all of them side by side.
-/
namespace CatalogSearch

variable {α β σ : Type}

/-- How several parties share a state. -/
structure Sharing (β : Type) where
  /-- The number of the parties. -/
  parties : Nat
  /-- How an effect of each party is answered and what it does. -/
  act : Nat → Job.Handler β
  /-- The effects that every party keeps to. -/
  allowed : Effect → Prop
  /-- What holds of the state between two turns. -/
  valid : β → Prop
  /-- What a party relies on while the others take their turns. -/
  rely : Nat → β → β → Prop
  rely_refl : ∀ i b, rely i b b
  rely_trans : ∀ {i b b' b''}, rely i b b' → rely i b' b'' → rely i b b''
  valid_act : ∀ {i effect b}, i < parties → valid b → allowed effect → valid (act i effect b).2
  rely_act : ∀ {i j effect b}, i ≠ j → valid b → allowed effect → rely i b (act j effect b).2

namespace Sharing

variable {sharing : Sharing β} {i : Nat} {b b' : β}

/-- What a party sees: the others may take turns before each of its effects. There is no state after
an effect that a party does not keep to. -/
def view (sharing : Sharing β) (i : Nat) : Semantics (Option β)
  | effect, some b, answer, w' => ∃ b', sharing.valid b' ∧ sharing.rely i b b' ∧
    (sharing.allowed effect ∧ answer = (sharing.act i effect b').1 ∧
        w' = some (sharing.act i effect b').2 ∨
      ¬ sharing.allowed effect ∧ w' = none)
  | _, none, _, w' => w' = none

/-- There is a state between two turns, and something is true of it. -/
def Holds (sharing : Sharing β) (P : β → Prop) (w : Option β) : Prop :=
  ∃ b, w = some b ∧ sharing.valid b ∧ P b

/-- What remains true while the others take their turns. -/
def Stable (sharing : Sharing β) (i : Nat) (P : β → Prop) : Prop :=
  ∀ b b', sharing.valid b' → sharing.rely i b b' → P b → P b'

theorem Holds.mono {P Q : β → Prop} {w : Option β} (h : sharing.Holds P w)
    (weaker : ∀ b, sharing.valid b → P b → Q b) : sharing.Holds Q w := by
  obtain ⟨b, hw, hvalid, hb⟩ := h
  exact ⟨b, hw, hvalid, weaker b hvalid hb⟩

/-- An effect that parties keep to is answered in a state of which the same is true. -/
theorem view_step {P : β → Prop} (stable : sharing.Stable i P) (effect : Effect)
    (hallowed : sharing.allowed effect) {w w' : Option β} {answer : effect.Answer}
    (step : sharing.view i effect w answer w') (hw : sharing.Holds P w) :
    ∃ b, sharing.valid b ∧ P b ∧ answer = (sharing.act i effect b).1 ∧
      w' = some (sharing.act i effect b).2 := by
  obtain ⟨b, rfl, -, hb⟩ := hw
  obtain ⟨b', hvalid, hrely, ⟨-, hanswer, hw'⟩ | ⟨hnot, -⟩⟩ := step
  · exact ⟨b', hvalid, stable b b' hvalid hrely hb, hanswer, hw'⟩
  · exact absurd hallowed hnot

/-- No job comes to an end after an effect that parties do not keep to. -/
theorem not_ends_none {job : Job α} {post : α → Option β → Prop} (hpost : ∀ a, ¬ post a none)
    (b : β) : ¬ job.Ends (sharing.view i) none post := by
  induction job with
  | done value => exact hpost value
  | ask effect next ih =>
    exact fun h => ih (sharing.act i effect b).1 (h (sharing.act i effect b).1 none rfl)

/-- A job that comes to an end keeps to what parties keep to. -/
theorem allowed_of_ends {effect : Effect} {next : effect.Answer → Job α} {P : α → β → Prop}
    (hvalid : sharing.valid b)
    (h : (Job.ask effect next).Ends (sharing.view i) (some b) fun a => sharing.Holds (P a)) :
    sharing.allowed effect := by
  refine Classical.byContradiction fun hnot => ?_
  have hnone := h (sharing.act i effect b).1 none
    ⟨b, hvalid, sharing.rely_refl i b, .inr ⟨hnot, rfl⟩⟩
  exact not_ends_none (fun a ⟨_, hb, _⟩ => by cases hb) b hnone

/-- What is said of a job remains true while the others take their turns. -/
theorem ends_of_rely {job : Job α} {P : α → β → Prop} (stable : ∀ a, sharing.Stable i (P a))
    (hvalid : sharing.valid b') (hrely : sharing.rely i b b')
    (h : job.Ends (sharing.view i) (some b) fun a => sharing.Holds (P a)) :
    job.Ends (sharing.view i) (some b') fun a => sharing.Holds (P a) := by
  cases job with
  | done value =>
    obtain ⟨_, hsome, -, hb⟩ := h
    obtain rfl := Option.some.inj hsome
    exact ⟨b', rfl, hvalid, stable value b b' hvalid hrely hb⟩
  | ask effect next =>
    rintro answer w' ⟨b'', hvalid'', hrely'', hstep⟩
    exact h answer w' ⟨b'', hvalid'', sharing.rely_trans hrely hrely'', hstep⟩

/-- A handler does what each party's effects do. -/
def Mirrors (handler : Job.Handler σ) (shown : σ → β → Prop) (sharing : Sharing β) : Prop :=
  ∀ i effect s b, shown s b → (handler effect s).1 = (sharing.act i effect b).1 ∧
    shown (handler effect s).2 (sharing.act i effect b).2

/-- Of each job on its own it is known how it ends. -/
structure Agree (sharing : Sharing β) (P : Nat → α → β → Prop) (jobs : List (Job α)) (b : β) :
    Prop where
  parties : jobs.length = sharing.parties
  valid : sharing.valid b
  ends : ∀ i (job : Job α), jobs[i]? = some job →
    job.Ends (sharing.view i) (some b) fun a => sharing.Holds (P i a)

variable {handler : Job.Handler σ} {shown : σ → β → Prop} {P : Nat → α → β → Prop}
  {jobs : List (Job α)} {s : σ}

/-- A job that is done has ended as is known. -/
theorem Agree.of_done (h : sharing.Agree P jobs b) {value : α}
    (hdone : jobs[i]? = some (.done value)) : P i value b := by
  obtain ⟨_, hb, -, hvalue⟩ := h.ends i _ hdone
  obtain rfl := Option.some.inj hb
  exact hvalue

/-- What one job does in its turn, the others can rely on. -/
theorem Agree.set (stable : ∀ i a, sharing.Stable i (P i a)) (h : sharing.Agree P jobs b)
    {job : Job α} (hvalid : sharing.valid b') (hrely : ∀ j, j ≠ i → sharing.rely j b b')
    (hends : job.Ends (sharing.view i) (some b') fun a => sharing.Holds (P i a)) :
    sharing.Agree P (jobs.set i job) b' := by
  refine ⟨(List.length_set ..).trans h.parties, hvalid, fun j other hj => ?_⟩
  by_cases hji : j = i
  · subst hji
    rw [List.getElem?_set_self'] at hj
    obtain ⟨_, -, rfl⟩ := Option.map_eq_some_iff.1 hj
    exact hends
  · rw [List.getElem?_set_ne (Ne.symm hji)] at hj
    exact ends_of_rely (stable j) hvalid (hrely j hji) (h.ends j other hj)

/-- After one turn, as much is known of each job. -/
theorem Agree.turn (mirrors : Mirrors handler shown sharing)
    (stable : ∀ i a, sharing.Stable i (P i a)) (hs : shown s b) (h : sharing.Agree P jobs b)
    (i : Nat) :
    ∃ b', shown (Job.turn handler i jobs s).2 b' ∧
      sharing.Agree P (Job.turn handler i jobs s).1 b' := by
  cases hjob : jobs[i]? with
  | none =>
    rw [Job.turn_of_getElem?_eq_none hjob]
    exact ⟨b, hs, h⟩
  | some job =>
    rw [Job.turn_of_getElem? hjob]
    have hends := h.ends i job hjob
    cases job with
    | done value => exact ⟨b, hs, h.set stable h.valid (fun j _ => sharing.rely_refl j b) hends⟩
    | ask effect next =>
      have hallowed := allowed_of_ends h.valid hends
      have hi : i < sharing.parties := h.parties ▸ (List.getElem?_eq_some_iff.1 hjob).1
      have hvalid := sharing.valid_act hi h.valid hallowed
      obtain ⟨hanswer, hs'⟩ := mirrors i effect s b hs
      have hnext := hends (sharing.act i effect b).1 (some (sharing.act i effect b).2)
        ⟨b, h.valid, sharing.rely_refl i b, .inl ⟨hallowed, rfl, rfl⟩⟩
      rw [← hanswer] at hnext
      exact ⟨(sharing.act i effect b).2, hs', h.set stable hvalid
        (fun j hj => sharing.rely_act hj h.valid hallowed) hnext⟩

/-- After any turns, as much is known of each job. -/
theorem Agree.interleave (mirrors : Mirrors handler shown sharing)
    (stable : ∀ i a, sharing.Stable i (P i a)) (hs : shown s b) (h : sharing.Agree P jobs b)
    (turns : List Nat) :
    ∃ b', shown (Job.interleave handler turns jobs s).2 b' ∧
      sharing.Agree P (Job.interleave handler turns jobs s).1 b' := by
  induction turns generalizing jobs s b with
  | nil => exact ⟨b, hs, h⟩
  | cons i turns ih =>
    obtain ⟨b', hs', h'⟩ := h.turn mirrors stable hs i
    exact ih hs' h'

end Sharing

end CatalogSearch
