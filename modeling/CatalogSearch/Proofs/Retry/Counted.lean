import CatalogSearch.Config
import CatalogSearch.Proofs.Retry.Attempts

/-!
# Attempts counted in 32 bits

A counter of 32 bits is raised before each attempt at a task, and the note on an attempt that others
may follow announces one attempt more than there are retries. With fewer retries than 32 bits can
count, neither of the two sums overflows, and the attempts are the same as without such a limit.
With as many retries, a task that always fails in a way that may pass is never given up: one of the
sums overflows first.
-/
namespace CatalogSearch.Retry

open Config (limit32)

variable {α σ : Type} {policy : Policy} {name : String} {task : Task α}

/-- A number of 32 bits raised by one, unless the sum does not fit. -/
def raise? (n : UInt32) : Option UInt32 :=
  if n.toNat < limit32 then some (n + 1) else none

theorem raise?_eq_some_iff {n m : UInt32} : raise? n = some m ↔ m.toNat = n.toNat + 1 := by
  have limit : limit32 = 2 ^ 32 - 1 := rfl
  have small := m.toNat_lt
  rw [raise?, Option.ite_none_right_eq_some, Option.some.injEq, ← UInt32.toNat_inj,
    UInt32.toNat_add, UInt32.toNat_one]
  omega

theorem exists_raise? {n : UInt32} (fits : n.toNat < limit32) : ∃ m, raise? n = some m :=
  ⟨n + 1, if_pos fits⟩

theorem raise?_eq_none_iff {n : UInt32} : raise? n = none ↔ n.toNat = limit32 := by
  have limit : limit32 = 2 ^ 32 - 1 := rfl
  have small := n.toNat_lt
  unfold raise?
  split
  · exact iff_of_false nofun (by omega)
  · exact iff_of_true rfl (by omega)

theorem raise?_ofNat_ne_none {n : Nat} (small : n < limit32) : raise? (.ofNat n) ≠ none := by
  have limit : limit32 = UInt32.size - 1 := rfl
  have bound : n < UInt32.size := by omega
  rw [Ne, raise?_eq_none_iff, UInt32.toNat_ofNat_of_lt' bound]
  omega

/-- The attempts at a task as `attempts` makes them, but counted in 32 bits; there is no outcome
where a sum overflows. The number of attempts that notes announce is worked out only if they are
`noted`. -/
def counted (noted : Bool) (policy : Policy) (name : String) (task : Task α) (made : UInt32) :
    Job (Option (Except GivenUp α)) :=
  match _ : raise? made with
  | none => return none
  | some attempt => do
    match ← task.attempt with
    | .ok value => return some (.ok value)
    | .error failure =>
      match policy.classifier failure with
      | .fatal => return some (.error ⟨failure, attempt.toNat, false⟩)
      | .retryable =>
        if policy.maxRetries < attempt.toNat then
          logCeiling name attempt.toNat failure
          return some (.error ⟨failure, attempt.toNat, true⟩)
        else if noted && raise? (.ofNat policy.maxRetries) = none then return none
        else
          logAttempt policy name attempt.toNat failure
          Job.pause (policy.delay attempt.toNat)
          counted noted policy name task attempt
termination_by 2 ^ 32 - made.toNat
decreasing_by
  have more := raise?_eq_some_iff.1 ‹raise? made = some attempt›
  have small := attempt.toNat_lt
  omega

/-- What follows an attempt that was counted. -/
theorem counted_of_raise? {noted : Bool} {made attempt : UInt32}
    (raised : raise? made = some attempt) :
    counted noted policy name task made = (do
      match ← task.attempt with
      | .ok value => return some (.ok value)
      | .error failure =>
        match policy.classifier failure with
        | .fatal => return some (.error ⟨failure, attempt.toNat, false⟩)
        | .retryable =>
          if policy.maxRetries < attempt.toNat then
            logCeiling name attempt.toNat failure
            return some (.error ⟨failure, attempt.toNat, true⟩)
          else if noted && raise? (.ofNat policy.maxRetries) = none then return none
          else
            logAttempt policy name attempt.toNat failure
            Job.pause (policy.delay attempt.toNat)
            counted noted policy name task attempt) := by
  rw [counted]
  split
  · next none => rw [raised] at none; cases none
  · next other same =>
    obtain rfl := Option.some.inj (raised.symm.trans same)
    rfl

theorem counted_of_raise?_none {noted : Bool} {made : UInt32} (full : raise? made = none) :
    counted noted policy name task made = pure none := by
  rw [counted]
  split
  · rfl
  · next other same => rw [full] at same; cases same

/-- With fewer retries than 32 bits can count, the attempts are the same. -/
theorem counted_eq_attempts (noted : Bool) (small : policy.maxRetries < limit32) (left : Nat)
    {made : UInt32} (rest : made.toNat + left = policy.maxRetries) :
    counted noted policy name task made =
      some <$> attempts policy name task made.toNat left := by
  have announced := raise?_ofNat_ne_none small
  induction left generalizing made with
  | zero =>
    obtain ⟨attempt, raised⟩ := exists_raise? (n := made) (by omega)
    have more := raise?_eq_some_iff.1 raised
    rw [counted_of_raise? raised, attempts, map_bind]
    refine congrArg _ (funext fun outcome => ?_)
    cases outcome with
    | ok value => rfl
    | error failure =>
      dsimp only
      cases policy.classifier failure with
      | fatal => rw [more]; rfl
      | retryable =>
        rw [if_pos (by omega), more]
        rfl
  | succ left ih =>
    obtain ⟨attempt, raised⟩ := exists_raise? (n := made) (by omega)
    have more := raise?_eq_some_iff.1 raised
    rw [counted_of_raise? raised, attempts, map_bind]
    refine congrArg _ (funext fun outcome => ?_)
    cases outcome with
    | ok value => rfl
    | error failure =>
      dsimp only
      cases policy.classifier failure with
      | fatal => rw [more]; rfl
      | retryable =>
        rw [if_neg (by omega), if_neg (by simp [announced]), ih (by omega), more]
        rfl

/-- Under a handler, every attempt at a task fails in a way that may pass. -/
structure Fails (policy : Policy) (handler : Job.Handler σ) (calls : σ → Nat) (task : Task α)
    (failures : Nat → Failure) : Prop where
  gives : Gives handler calls task fun k => .error (failures k)
  passes : ∀ k, policy.classifier (failures k) = .retryable

namespace Fails

variable {handler : Job.Handler σ} {calls : σ → Nat} {failures : Nat → Failure} {noted : Bool}

/-- One more attempt is made; then the task is given up, a sum overflows, or others follow. -/
theorem step (fails : Fails policy handler calls task failures) (noted : Bool) (name : String)
    {made attempt : UInt32} (raised : raise? made = some attempt) {s : σ}
    (known : calls s = made.toNat) :
    ∃ s', calls s' = attempt.toNat ∧ (counted noted policy name task made).run handler s =
      if policy.maxRetries < attempt.toNat then
        (some (.error ⟨failures attempt.toNat, attempt.toNat, true⟩), s')
      else if noted && raise? (.ofNat policy.maxRetries) = none then (none, s')
      else (counted noted policy name task attempt).run handler s' := by
  have more := raise?_eq_some_iff.1 raised
  have one : calls (task.attempt.run handler s).2 = attempt.toNat := by
    rw [fails.gives.counted, known, more]
  rw [counted_of_raise? raised, Job.run_bind, fails.gives.outcome, known, ← more]
  dsimp only
  rw [fails.passes]
  dsimp only
  split
  · exact ⟨_, (fails.gives.log _ _).trans one, rfl⟩
  · split
    · exact ⟨_, one, rfl⟩
    · exact ⟨_, ((fails.gives.pause _ _).trans (fails.gives.log _ _)).trans one, rfl⟩

/-- With fewer retries than 32 bits can count, all of them are made before the task is given up. -/
theorem gives_up (fails : Fails policy handler calls task failures)
    (small : policy.maxRetries < limit32) (left : Nat) {made : UInt32}
    (rest : made.toNat + left = policy.maxRetries) {s : σ} (known : calls s = made.toNat) :
    ∃ s', calls s' = policy.maxRetries + 1 ∧ (counted noted policy name task made).run handler s =
      (some (.error ⟨failures (policy.maxRetries + 1), policy.maxRetries + 1, true⟩), s') := by
  have announced := raise?_ofNat_ne_none small
  induction left generalizing made s with
  | zero =>
    obtain ⟨attempt, raised⟩ := exists_raise? (n := made) (by omega)
    obtain ⟨s₁, one, run⟩ := fails.step noted name raised known
    have more := raise?_eq_some_iff.1 raised
    have last : attempt.toNat = policy.maxRetries + 1 := by omega
    rw [if_pos (by omega), last] at run
    exact ⟨s₁, one.trans last, run⟩
  | succ left ih =>
    obtain ⟨attempt, raised⟩ := exists_raise? (n := made) (by omega)
    obtain ⟨s₁, one, run⟩ := fails.step noted name raised known
    have more := raise?_eq_some_iff.1 raised
    rw [if_neg (by omega), if_neg (by simp [announced])] at run
    rw [run]
    exact ih (by omega) one

/-- With as many retries as 32 bits can count, the task is attempted as often as they can count, and
then the counter overflows. -/
theorem counter_overflows (fails : Fails policy handler calls task failures)
    (largest : policy.maxRetries = limit32) (left : Nat) {made : UInt32}
    (rest : made.toNat + left = limit32) {s : σ} (known : calls s = made.toNat) :
    ∃ s', calls s' = limit32 ∧
      (counted false policy name task made).run handler s = (none, s') := by
  induction left generalizing made s with
  | zero =>
    rw [counted_of_raise?_none (raise?_eq_none_iff.2 rest)]
    exact ⟨s, known.trans rest, rfl⟩
  | succ left ih =>
    obtain ⟨attempt, raised⟩ := exists_raise? (n := made) (by omega)
    obtain ⟨s₁, one, run⟩ := fails.step false name raised known
    have more := raise?_eq_some_iff.1 raised
    rw [if_neg (by omega), if_neg (by simp)] at run
    rw [run]
    exact ih (by omega) one

/-- Where notes are written, the number of attempts that the first one announces overflows. -/
theorem note_overflows (fails : Fails policy handler calls task failures)
    (largest : policy.maxRetries = limit32) {s : σ} (fresh : calls s = 0) :
    ∃ s', calls s' = 1 ∧ (counted true policy name task 0).run handler s = (none, s') := by
  have full : raise? (.ofNat policy.maxRetries) = none := by
    rw [largest, raise?_eq_none_iff]
    rfl
  have many : ¬policy.maxRetries < 1 := by
    rw [largest]
    decide
  have first : raise? 0 = some 1 := rfl
  obtain ⟨s₁, one, run⟩ := fails.step true name first fresh
  rw [UInt32.toNat_one, if_neg many, if_pos (by simp [full])] at run
  exact ⟨s₁, one, run⟩

end Fails

/-- What a policy comes to if all of its retries can be counted. -/
structure Sustains (policy : Policy) : Prop where
  /-- Counting in 32 bits makes no difference to any task, so that no sum overflows. -/
  counted : ∀ {α : Type} (noted : Bool) (name : String) (task : Task α),
    Retry.counted noted policy name task 0 = some <$> run policy name task
  /-- A task that always fails in a way that may pass is attempted once more than there are retries,
  and then given up with its last failure. -/
  exhausts : ∀ {α σ : Type} {task : Task α} {handler : Job.Handler σ} {calls : σ → Nat}
    {failures : Nat → Failure} {s : σ} (noted : Bool) (name : String),
    Fails policy handler calls task failures → calls s = 0 →
      ∃ s', calls s' = policy.maxRetries + 1 ∧
        (Retry.counted noted policy name task 0).run handler s =
          (some (.error ⟨failures (policy.maxRetries + 1), policy.maxRetries + 1, true⟩), s')

theorem sustains_of_lt (small : policy.maxRetries < limit32) : Sustains policy where
  counted noted _ _ := counted_eq_attempts noted small policy.maxRetries (Nat.zero_add _)
  exhausts _ _ fails fresh := fails.gives_up small policy.maxRetries (Nat.zero_add _) fresh

/-- What a policy comes to if it has as many retries as 32 bits can count. -/
def Overflows (policy : Policy) : Prop :=
  ∀ {α σ : Type} {task : Task α} {handler : Job.Handler σ} {calls : σ → Nat}
    {failures : Nat → Failure} {s : σ} (noted : Bool) (name : String),
    Fails policy handler calls task failures → calls s = 0 →
      ∃ s', calls s' = (if noted then 1 else limit32) ∧
        (counted noted policy name task 0).run handler s = (none, s')

theorem overflows_of_eq (largest : policy.maxRetries = limit32) : Overflows policy := by
  intro _ _ _ _ _ _ _ noted name fails fresh
  cases noted with
  | false => exact fails.counter_overflows largest limit32 (Nat.zero_add _) fresh
  | true => exact fails.note_overflows largest fresh

end CatalogSearch.Retry
