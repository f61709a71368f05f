import CatalogSearch.Job

/-!
# Jobs that take turns

Several jobs run side by side on one state: in every turn one of them asks for its next effect.
Which one it is, is not for the jobs to say; but when every job gets its turn again and again, all
of them are done after some time, since each of them is a tree without infinite branches.
-/
namespace CatalogSearch.Job

variable {α σ : Type}

/-- Ask for one effect, unless there is nothing left to ask for. -/
def step (handler : Handler σ) : Job α → σ → Job α × σ
  | done value, s => (done value, s)
  | ask effect next, s =>
    let (answer, s) := handler effect s
    (next answer, s)

def isDone : Job α → Bool
  | done _ => true
  | ask _ _ => false

def turn (handler : Handler σ) (i : Nat) (jobs : List (Job α)) (s : σ) : List (Job α) × σ :=
  match jobs[i]? with
  | some job =>
    let (job, s) := job.step handler s
    (jobs.set i job, s)
  | none => (jobs, s)

/-- Several jobs after some turns. -/
def interleave (handler : Handler σ) : List Nat → List (Job α) → σ → List (Job α) × σ
  | [], jobs, s => (jobs, s)
  | i :: turns, jobs, s =>
    let (jobs, s) := turn handler i jobs s
    interleave handler turns jobs s

variable {handler : Handler σ} {jobs : List (Job α)} {s : σ}

/-- A turn goes to the job that it belongs to. -/
theorem turn_of_getElem? {i : Nat} {job : Job α} (h : jobs[i]? = some job) :
    turn handler i jobs s = (jobs.set i (job.step handler s).1, (job.step handler s).2) := by
  simp only [turn, h]

/-- A turn of no job changes nothing. -/
theorem turn_of_getElem?_eq_none {i : Nat} (h : jobs[i]? = none) :
    turn handler i jobs s = (jobs, s) := by
  simp only [turn, h]

theorem length_turn (handler : Handler σ) (i : Nat) (jobs : List (Job α)) (s : σ) :
    (turn handler i jobs s).1.length = jobs.length := by
  unfold turn
  split
  · exact List.length_set ..
  · rfl

/-- The other jobs stay as they are. -/
theorem getElem?_turn_of_ne (handler : Handler σ) {i j : Nat} (h : j ≠ i) (jobs : List (Job α))
    (s : σ) : (turn handler i jobs s).1[j]? = jobs[j]? := by
  unfold turn
  split
  · exact List.getElem?_set_ne (Ne.symm h)
  · rfl

/-- Whose turn it is goes on by one step. -/
theorem getElem?_turn_self {i : Nat} {job : Job α} (h : jobs[i]? = some job) :
    (turn handler i jobs s).1[i]? = some (job.step handler s).1 := by
  rw [turn_of_getElem? h]
  exact List.getElem?_set_self (List.getElem?_eq_some_iff.1 h).1

/-- A job that is done stays so. -/
theorem getElem?_turn_of_done (handler : Handler σ) (i : Nat) {j : Nat} {value : α}
    (h : jobs[j]? = some (done value)) (s : σ) :
    (turn handler i jobs s).1[j]? = some (done value) := by
  by_cases hj : j = i
  · subst hj
    exact getElem?_turn_self h
  · rw [getElem?_turn_of_ne handler hj]
    exact h

theorem interleave_append (turns turns' : List Nat) (jobs : List (Job α)) (s : σ) :
    interleave handler (turns ++ turns') jobs s =
      interleave handler turns' (interleave handler turns jobs s).1
        (interleave handler turns jobs s).2 := by
  induction turns generalizing jobs s with
  | nil => rfl
  | cons i turns ih => exact ih _ _

theorem length_interleave (handler : Handler σ) (turns : List Nat) (jobs : List (Job α)) (s : σ) :
    (interleave handler turns jobs s).1.length = jobs.length := by
  induction turns generalizing jobs s with
  | nil => rfl
  | cons i turns ih => exact (ih _ _).trans (length_turn handler i jobs s)

/-- Each of the first `count` jobs gets its turn again and again. -/
def Fair (count : Nat) (turns : Nat → Nat) : Prop :=
  ∀ i < count, ∀ t, ∃ t' ≥ t, turns t' = i

/-- Several jobs after the first turns of an endless schedule. -/
def after (handler : Handler σ) (turns : Nat → Nat) (jobs : List (Job α)) (s : σ) (t : Nat) :
    List (Job α) × σ :=
  interleave handler ((List.range t).map turns) jobs s

theorem after_succ (turns : Nat → Nat) (jobs : List (Job α)) (s : σ) (t : Nat) :
    after handler turns jobs s (t + 1) =
      turn handler (turns t) (after handler turns jobs s t).1 (after handler turns jobs s t).2 := by
  simp only [after, List.range_succ, List.map_append, interleave_append]
  rfl

/-- What is done stays done. -/
theorem after_of_done {turns : Nat → Nat} {i t t' : Nat} {value : α} (hle : t ≤ t')
    (h : (after handler turns jobs s t).1[i]? = some (done value)) :
    (after handler turns jobs s t').1[i]? = some (done value) := by
  obtain ⟨later, rfl⟩ := Nat.exists_eq_add_of_le hle
  induction later with
  | zero => exact h
  | succ later ih =>
    rw [← Nat.add_assoc, after_succ]
    exact getElem?_turn_of_done handler _ (ih (Nat.le_add_right t later)) _

/-- Until it gets its turn, a job waits as it is. -/
theorem exists_turn {count : Nat} {turns : Nat → Nat} (fair : Fair count turns) {i t : Nat}
    (hi : i < count) {job : Job α} (h : (after handler turns jobs s t).1[i]? = some job) :
    ∃ t', turns t' = i ∧ (after handler turns jobs s t').1[i]? = some job := by
  obtain ⟨last, hlast, hturn⟩ := fair i hi t
  obtain ⟨distance, rfl⟩ := Nat.exists_eq_add_of_le hlast
  induction distance generalizing t with
  | zero => exact ⟨t, hturn, h⟩
  | succ distance ih =>
    by_cases hnow : turns t = i
    · exact ⟨t, hnow, h⟩
    · refine ih (t := t + 1) ?_ (by omega) ?_
      · rw [after_succ, getElem?_turn_of_ne handler (Ne.symm hnow)]
        exact h
      · rw [← hturn]
        exact congrArg turns (by omega)

/-- A job that gets its turn again and again is done after some time. -/
theorem exists_done {count : Nat} {turns : Nat → Nat} (fair : Fair count turns) {i : Nat}
    (hi : i < count) (job : Job α) {t : Nat}
    (h : (after handler turns jobs s t).1[i]? = some job) :
    ∃ t' value, (after handler turns jobs s t').1[i]? = some (done value) := by
  induction job generalizing t with
  | done value => exact ⟨t, value, h⟩
  | ask effect next ih =>
    obtain ⟨t', hturn, hwaits⟩ := exists_turn fair hi h
    refine ih (handler effect (after handler turns jobs s t').2).1 (t := t' + 1) ?_
    rw [after_succ, hturn]
    exact getElem?_turn_self hwaits

/-- When every job gets its turn again and again, all are done after some time. -/
theorem exists_all_done {turns : Nat → Nat} (fair : Fair jobs.length turns) (s : σ) :
    ∃ t, ∀ job ∈ (after handler turns jobs s t).1, job.isDone = true := by
  have each (i : Nat) (hi : i < jobs.length) :
      ∃ t value, (after handler turns jobs s t).1[i]? = some (done value) :=
    exists_done fair hi jobs[i] (t := 0) (List.getElem?_eq_getElem hi)
  have upTo (k : Nat) (hk : k ≤ jobs.length) :
      ∃ t, ∀ i < k, ∃ value, (after handler turns jobs s t).1[i]? = some (done value) := by
    induction k with
    | zero => exact ⟨0, fun i hi => absurd hi (Nat.not_lt_zero i)⟩
    | succ k ih =>
      obtain ⟨t, before⟩ := ih (by omega)
      obtain ⟨t', value, hlast⟩ := each k hk
      refine ⟨max t t', fun i hi => ?_⟩
      rcases Nat.lt_succ_iff_lt_or_eq.1 hi with hi | rfl
      · obtain ⟨value, hdone⟩ := before i hi
        exact ⟨value, after_of_done (Nat.le_max_left t t') hdone⟩
      · exact ⟨value, after_of_done (Nat.le_max_right t t') hlast⟩
  obtain ⟨t, all⟩ := upTo jobs.length (Nat.le_refl _)
  refine ⟨t, fun job hjob => ?_⟩
  obtain ⟨i, hi, rfl⟩ := List.getElem_of_mem hjob
  obtain ⟨value, hdone⟩ := all i (by rwa [after, length_interleave] at hi)
  rw [List.getElem?_eq_getElem hi] at hdone
  rw [Option.some.inj hdone]
  rfl

end CatalogSearch.Job
