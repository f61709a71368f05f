import CatalogSearch.Proofs.Job.Quiet
import CatalogSearch.Proofs.Job.Recorded
import CatalogSearch.Proofs.Time.Seconds
import Mathlib.Order.Bounds.Basic

/-!
# The attempts at a task

A task that is retried is attempted again and again, with one growing pause between two attempts,
until it succeeds, fails in a way that does not pass, or no retry is left. The first outcome that
ends this decides how many attempts there are, and the last one what is returned.
-/
namespace CatalogSearch.Retry

open Job (Event answeredBy paced recorded unnoted)

variable {α σ ω : Type} {sem : Semantics ω} {policy : Policy} {name : String} {task : Task α}

/-- Is an outcome a failure that may pass? -/
def Policy.passes (policy : Policy) : Except Failure α → Bool
  | .ok _ => false
  | .error f => policy.classifier f = .retryable

/-- What becomes of a task by the outcome of its last attempt, of so many. -/
def Policy.verdict (policy : Policy) (attempts : Nat) : Except Failure α → Except GivenUp α
  | .ok value => .ok value
  | .error f => .error ⟨f, attempts, policy.classifier f = .retryable⟩

/-- An attempt at a task: what it asked for, and how it came out. -/
structure Try (α : Type) where
  events : List Event
  outcome : Except Failure α

/-- The history of a task that is retried, from where it was attempted `made` times and `left`
retries are left. -/
structure Retried (policy : Policy) (task : Task α) (made left : Nat) (tries : List (Try α))
    (events : List Event) (result : Except GivenUp α) : Prop where
  /-- Each attempt is a whole run of the task. -/
  ran : ∀ t ∈ tries, task.attempt.Ran t.events t.outcome
  /-- There is one pause between each two of them, and nothing else. -/
  paced : unnoted events = paced policy.delay (made + 1) (tries.map fun t => unnoted t.events)
  /-- All but the last have failed in ways that may pass. -/
  passed : ∀ t ∈ tries.dropLast, policy.passes t.outcome = true
  /-- The last one decides; if it has failed in such a way as well, no retry was left. -/
  last : ∃ t, tries.getLast? = some t ∧ result = policy.verdict (made + tries.length) t.outcome ∧
    (policy.passes t.outcome = true → tries.length = left + 1)
  few : tries.length ≤ left + 1

variable {made left : Nat} {tries : List (Try α)} {events : List Event}
  {result : Except GivenUp α} {outcome : Except Failure α}

theorem Retried.ne_nil (h : Retried policy task made left tries events result) : tries ≠ [] := by
  obtain ⟨t, last, -⟩ := h.last
  rintro rfl
  cases last

/-- An attempt with which a task ends; only notes come after it. -/
theorem Retried.single {during after : List Event} (ran : task.attempt.Ran during outcome)
    (notes : unnoted after = []) (ends : policy.passes outcome = true → left = 0) :
    Retried policy task made left [⟨during, outcome⟩] (during ++ after)
      (policy.verdict (made + 1) outcome) where
  ran t ht := by
    rw [List.mem_singleton.1 ht]
    exact ran
  paced := by simp [notes, Job.paced]
  passed := by simp
  last := ⟨_, rfl, rfl, fun passes => by simp [ends passes]⟩
  few := by simp

/-- An attempt that may be followed by others, with a note and a pause before them. -/
theorem Retried.cons {during : List Event} {failure : Failure} (entry : Log.Entry)
    (h : Retried policy task (made + 1) left tries events result)
    (ran : task.attempt.Ran during (.error failure))
    (passes : policy.classifier failure = .retryable) :
    Retried policy task made (left + 1) (⟨during, .error failure⟩ :: tries)
      (during ++ ⟨.log entry, ()⟩ :: ⟨.pause (policy.delay (made + 1)), ()⟩ :: events) result where
  ran t ht := by
    rcases List.mem_cons.1 ht with rfl | ht
    · exact ran
    · exact h.ran t ht
  paced := by
    have some : (tries.map fun t => unnoted t.events) ≠ [] := by simp [h.ne_nil]
    rw [List.map_cons, Job.paced_cons some, ← h.paced]
    simp
  passed t ht := by
    rw [List.dropLast_cons_of_ne_nil h.ne_nil] at ht
    rcases List.mem_cons.1 ht with rfl | ht
    · simp [Policy.passes, passes]
    · exact h.passed t ht
  last := by
    obtain ⟨t, last, decided, spent⟩ := h.last
    refine ⟨t, ?_, ?_, fun passes => congrArg (· + 1) (spent passes)⟩
    · rw [List.getLast?_cons, last]
      rfl
    · rw [decided, List.length_cons, Nat.add_right_comm, Nat.add_assoc]
  few := Nat.succ_le_succ h.few

/-- What is neither a note nor a pause belongs to one of the attempts. -/
theorem Retried.countP (h : Retried policy task made left tries events result) {p : Event → Bool}
    (note : ∀ entry answer, p ⟨.log entry, answer⟩ = false)
    (pause : ∀ span answer, p ⟨.pause span, answer⟩ = false) :
    events.countP p = (tries.map fun t => t.events.countP p).sum := by
  rw [← Job.countP_unnoted note, h.paced, Job.countP_paced pause, List.map_map]
  refine congrArg List.sum (List.map_congr_left fun t _ => ?_)
  exact Job.countP_unnoted note t.events

/-- Outcomes that may pass are failures. -/
theorem errors_of_passes (passes : ∀ t ∈ tries, policy.passes t.outcome = true) :
    ∃ errors : List Failure, tries.map (·.outcome) = errors.map .error ∧
      ∀ f ∈ errors, policy.classifier f = .retryable := by
  induction tries with
  | nil => exact ⟨[], rfl, nofun⟩
  | cons t rest ih =>
    obtain ⟨errors, same, retryable⟩ := ih fun t ht => passes t (List.mem_cons_of_mem _ ht)
    have first := passes t List.mem_cons_self
    cases outcome : t.outcome with
    | ok a => simp [outcome, Policy.passes] at first
    | error f =>
      refine ⟨f :: errors, by simp [outcome, same], ?_⟩
      simp only [outcome, Policy.passes, decide_eq_true_eq] at first
      exact List.forall_mem_cons.2 ⟨first, retryable⟩

/-- A task that is given up has failed in each attempt, and all but the last failure may pass. -/
theorem Retried.errors {given : GivenUp}
    (h : Retried policy task made left tries events (.error given)) :
    ∃ earlier f, tries.map (·.outcome) = (earlier ++ [f]).map .error ∧
      (∀ e ∈ earlier, policy.classifier e = .retryable) ∧
      given = ⟨f, made + tries.length, policy.classifier f = .retryable⟩ ∧
      (policy.classifier f = .retryable → tries.length = left + 1) := by
  obtain ⟨t, last, decided, spent⟩ := h.last
  obtain ⟨init, rfl⟩ := List.getLast?_eq_some_iff.1 last
  have passed := h.passed
  rw [List.dropLast_concat] at passed
  obtain ⟨earlier, same, retryable⟩ := errors_of_passes passed
  cases outcome : t.outcome with
  | ok a =>
    rw [outcome] at decided
    cases decided
  | error f =>
    rw [outcome] at decided spent
    refine ⟨earlier, f, ?_, retryable, Except.error.inj decided, fun passes => spent ?_⟩
    · simp only [List.map_append, same, List.map_singleton, outcome]
    · simpa [Policy.passes] using passes

/-- What is known after the attempts at a task: how they went, something about each of their
outcomes, and the scene after a success or after a failure. -/
structure Tries (policy : Policy) (task : Task α) (fact : Nat → Except Failure α → Prop)
    (good : Nat → α → ω → Prop) (inv : Nat → ω → Prop) (made left : Nat) (tries : List (Try α))
    (events : List Event) (result : Except GivenUp α) (w : ω) : Prop
    extends Retried policy task made left tries events result where
  facts : ∀ i t, tries[i]? = some t → fact (made + i + 1) t.outcome
  good : ∀ a, result = .ok a → good (made + tries.length) a w
  inv : ∀ given, result = .error given → inv (made + tries.length) w

variable {fact : Nat → Except Failure α → Prop} {good : Nat → α → ω → Prop} {inv : Nat → ω → Prop}
  {w : ω}

theorem Tries.single {during after : List Event} (ran : task.attempt.Ran during outcome)
    (notes : unnoted after = []) (ends : policy.passes outcome = true → left = 0)
    (known : fact (made + 1) outcome) (succeeds : ∀ a, outcome = .ok a → good (made + 1) a w)
    (fails : ∀ f, outcome = .error f → inv (made + 1) w) :
    Tries policy task fact good inv made left [⟨during, outcome⟩] (during ++ after)
      (policy.verdict (made + 1) outcome) w where
  toRetried := .single ran notes ends
  facts i t at_i := by
    cases i with
    | zero =>
      obtain rfl := Option.some.inj at_i
      exact known
    | succ i => cases at_i
  good a ok := by
    cases outcome with
    | ok value => exact succeeds a (congrArg _ (Except.ok.inj ok))
    | error f => cases ok
  inv given error := by
    cases outcome with
    | ok value => cases error
    | error f => exact fails f rfl

theorem Tries.succeeded {during : List Event} {value : α}
    (ran : task.attempt.Ran during (.ok value)) (known : fact (made + 1) (.ok value))
    (post : good (made + 1) value w) :
    Tries policy task fact good inv made left [⟨during, .ok value⟩] during (.ok value) w := by
  have single : Tries policy task fact good inv made left [⟨during, .ok value⟩] (during ++ [])
      (policy.verdict (made + 1) (.ok value)) w :=
    .single ran Job.unnoted_nil nofun known (fun _ same => Except.ok.inj same ▸ post) nofun
  rwa [List.append_nil] at single

theorem Tries.fatal {during : List Event} {failure : Failure}
    (ran : task.attempt.Ran during (.error failure))
    (final : policy.classifier failure = .fatal) (known : fact (made + 1) (.error failure))
    (post : inv (made + 1) w) :
    Tries policy task fact good inv made left [⟨during, .error failure⟩] during
      (.error ⟨failure, made + 1, false⟩) w := by
  have single : Tries policy task fact good inv made left [⟨during, .error failure⟩]
      (during ++ []) (policy.verdict (made + 1) (.error failure)) w :=
    .single ran Job.unnoted_nil (by simp [Policy.passes, final]) known nofun fun _ _ => post
  rw [List.append_nil] at single
  simpa [Policy.verdict, final] using single

theorem Tries.exhausted {during : List Event} {failure : Failure} {entry : Log.Entry}
    (ran : task.attempt.Ran during (.error failure))
    (passes : policy.classifier failure = .retryable) (known : fact (made + 1) (.error failure))
    (post : inv (made + 1) w) :
    Tries policy task fact good inv made 0 [⟨during, .error failure⟩]
      (during ++ [⟨.log entry, ()⟩]) (.error ⟨failure, made + 1, true⟩) w := by
  have single : Tries policy task fact good inv made 0 [⟨during, .error failure⟩]
      (during ++ [⟨.log entry, ()⟩]) (policy.verdict (made + 1) (.error failure)) w :=
    .single ran (Job.unnoted_log entry () []) (fun _ => rfl) known nofun fun _ _ => post
  simpa [Policy.verdict, passes] using single

theorem Tries.cons {during : List Event} {failure : Failure} (entry : Log.Entry)
    (h : Tries policy task fact good inv (made + 1) left tries events result w)
    (ran : task.attempt.Ran during (.error failure))
    (passes : policy.classifier failure = .retryable) (known : fact (made + 1) (.error failure)) :
    Tries policy task fact good inv made (left + 1) (⟨during, .error failure⟩ :: tries)
      (during ++ ⟨.log entry, ()⟩ :: ⟨.pause (policy.delay (made + 1)), ()⟩ :: events) result
      w where
  toRetried := h.toRetried.cons entry ran passes
  facts i t at_i := by
    cases i with
    | zero =>
      obtain rfl := Option.some.inj at_i
      exact known
    | succ i =>
      have shifted := h.facts i t at_i
      rwa [Nat.add_right_comm made 1 i] at shifted
  good a ok := by
    have shifted := h.good a ok
    rwa [Nat.add_right_comm made 1, Nat.add_assoc] at shifted
  inv given error := by
    have shifted := h.inv given error
    rwa [Nat.add_right_comm made 1, Nat.add_assoc] at shifted

/-- A task of which each attempt ends in a known way, or in one from which the next may start. -/
theorem attempts_ends (idle : ∀ k, Idle sem (inv k))
    (each : ∀ k w, inv k w → task.Ends sem w
      (fun a w' => fact (k + 1) (.ok a) ∧ good (k + 1) a w')
      fun f w' => fact (k + 1) (.error f) ∧ inv (k + 1) w')
    (made left : Nat) (history : List Event) (hw : inv made w) :
    (attempts policy name task made left).Ends (recorded sem) (history, w) fun result w' =>
      ∃ tries events, w'.1 = history ++ events ∧
        Tries policy task fact good inv made left tries events result w'.2 := by
  induction left generalizing made history w with
  | zero =>
    refine Job.ends_bind.2 (((each made w hw).recorded history).mono ?_)
    rintro outcome ⟨_, w₁⟩ ⟨⟨during, rfl, ran⟩, post⟩
    cases outcome with
    | ok a => exact ⟨_, during, rfl, .succeeded ran post.1 post.2⟩
    | error f =>
      dsimp only
      split
      · next final => exact ⟨_, during, rfl, .fatal ran final post.1 post.2⟩
      · next passes =>
        rintro _ ⟨_, w₂⟩ ⟨rfl, step⟩
        have kept := (idle _).log _ _ _ _ step post.2
        exact ⟨_, _, List.append_assoc .., .exhausted ran passes post.1 kept⟩
  | succ left ih =>
    refine Job.ends_bind.2 (((each made w hw).recorded history).mono ?_)
    rintro outcome ⟨_, w₁⟩ ⟨⟨during, rfl, ran⟩, post⟩
    cases outcome with
    | ok a => exact ⟨_, during, rfl, .succeeded ran post.1 post.2⟩
    | error f =>
      dsimp only
      split
      · next final => exact ⟨_, during, rfl, .fatal ran final post.1 post.2⟩
      · next passes =>
        rintro _ ⟨_, w₂⟩ ⟨rfl, noted⟩ _ ⟨_, w₃⟩ ⟨rfl, paused⟩
        have kept := (idle _).pause _ _ _ _ paused ((idle _).log _ _ _ _ noted post.2)
        refine (ih (made + 1) _ kept).mono ?_
        rintro result ⟨_, w₄⟩ ⟨tries, events, rfl, later⟩
        refine ⟨_, _, ?_, later.cons ?_ ran passes post.1⟩
        simp only [List.append_assoc]
        rfl

/-- Is an outcome no failure for good? -/
def Policy.tolerates (policy : Policy) : Except Failure α → Prop
  | .ok _ => True
  | .error f => policy.classifier f = .retryable

/-- A task whose failures may all pass is given up only when it has used up all its attempts. -/
theorem run_exhausts {spent : Nat → ω → Prop} {good : α → ω → Prop}
    (idle : ∀ k, Idle sem (spent k))
    (each : ∀ k w, spent k w → task.Ends sem w good
      fun f w' => policy.classifier f = .retryable ∧ spent (k + 1) w') (start : spent 0 w) :
    (run policy name task).Ends (recorded sem) ([], w) fun
      | .ok a, w' => good a w'.2
      | .error _, w' => spent (policy.maxRetries + 1) w'.2 := by
  have attempts : (run policy name task).Ends (recorded sem) ([], w) fun result w' =>
      ∃ tries events, w'.1 = [] ++ events ∧ Tries policy task (fun _ => policy.tolerates)
        (fun _ => good) spent 0 policy.maxRetries tries events result w'.2 :=
    attempts_ends idle (fun k w h => (each k w h).mono (fun _ _ h => ⟨trivial, h⟩) fun _ _ h => h)
      0 policy.maxRetries [] start
  refine attempts.mono ?_
  rintro result w' ⟨tries, events, -, h⟩
  cases result with
  | ok a => exact h.good a rfl
  | error given =>
    obtain ⟨t, last, decided, all⟩ := h.last
    rw [List.getLast?_eq_getElem?] at last
    -- The last attempt failed like all the others, so there were as many as allowed.
    have tolerated := h.facts _ t last
    have passes : policy.passes t.outcome = true := by
      cases outcome : t.outcome with
      | ok a => simp [outcome, Policy.verdict] at decided
      | error f =>
        rw [outcome] at tolerated
        exact decide_eq_true tolerated
    have left := h.inv given rfl
    rwa [all passes, Nat.zero_add] at left

/-- The pause before a retry in nanoseconds. -/
theorem Policy.delay_nanos (policy : Policy) (retry : Nat) :
    (policy.delay retry).nanos =
      min (policy.baseDelay.nanos * 2 ^ min (retry - 1) 30) (2 ^ 64 * 10 ^ 9 - 1) :=
  policy.baseDelay.nanos_scale _

/-- Pauses never get shorter. -/
theorem Policy.delay_monotone (policy : Policy) :
    Monotone fun retry => (policy.delay retry).nanos := by
  intro early late before
  simp only [Policy.delay_nanos]
  have exponent : min (early - 1) 30 ≤ min (late - 1) 30 := by omega
  have power := Nat.pow_le_pow_right Nat.two_pos exponent
  have scaled := Nat.mul_le_mul_left policy.baseDelay.nanos power
  omega

/-- Under a handler, the attempts at a task come out as a sequence says, counted from one. The state
tells how many were made; notes and pauses are none. -/
structure Gives (handler : Job.Handler σ) (calls : σ → Nat) (task : Task α)
    (outcomes : Nat → Except Failure α) : Prop where
  outcome : ∀ s, (task.attempt.run handler s).1 = outcomes (calls s + 1)
  counted : ∀ s, calls (task.attempt.run handler s).2 = calls s + 1
  log : ∀ entry s, calls (handler (.log entry) s).2 = calls s
  pause : ∀ span s, calls (handler (.pause span) s).2 = calls s

variable {handler : Job.Handler σ} {calls : σ → Nat} {outcomes : Nat → Except Failure α}

theorem Gives.idle (h : Gives handler calls task outcomes) (k : Nat) :
    Idle (answeredBy handler) fun s => calls s = k where
  log entry s answer s' step known := by
    rw [← known, ← h.log entry s, ← step]
  pause span s answer s' step known := by
    rw [← known, ← h.pause span s, ← step]

theorem Gives.ends (h : Gives handler calls task outcomes) {k : Nat} {s : σ} (known : calls s = k) :
    task.Ends (answeredBy handler) s
      (fun a s' => .ok a = outcomes (k + 1) ∧ calls s' = k + 1)
      fun f s' => .error f = outcomes (k + 1) ∧ calls s' = k + 1 := by
  subst known
  apply Job.ends_answeredBy
  have counted := h.counted s
  have outcome := h.outcome s
  split
  · next a same => exact ⟨same ▸ outcome, counted⟩
  · next f same => exact ⟨same ▸ outcome, counted⟩

/-- A task whose attempts come out as given was attempted exactly `n` times, with this history and
this result. -/
structure Attempted (policy : Policy) (task : Task α) (outcomes : Nat → Except Failure α) (n : Nat)
    (history : List Event) (result : Except GivenUp α) : Prop where
  /-- The last attempt is the first that succeeds or fails for good, or else the last allowed. -/
  least : IsLeast {n | 1 ≤ n ∧
    (policy.passes (outcomes n) = false ∨ n = policy.maxRetries + 1)} n
  result : result = policy.verdict n (outcomes n)
  /-- The attempts come one after the other, with a single pause between each two of them. -/
  paced : ∃ tries : List (List Event), tries.length = n ∧
    (∀ i events, tries[i]? = some events → task.attempt.Ran events (outcomes (i + 1))) ∧
    unnoted history = paced policy.delay 1 (tries.map unnoted)

theorem Tries.attempted {good : Nat → α → ω → Prop} {inv : Nat → ω → Prop} {w : ω}
    (h : Tries policy task (fun k o => o = outcomes k) good inv 0 policy.maxRetries tries events
      result w) : Attempted policy task outcomes tries.length events result := by
  have outcome_at (i : Nat) (t : Try α) (at_i : tries[i]? = some t) :
      t.outcome = outcomes (i + 1) := by
    rw [h.facts i t at_i, Nat.zero_add]
  obtain ⟨t, last, decided, spent⟩ := h.last
  have some : 1 ≤ tries.length := List.length_pos_iff.2 h.ne_nil
  rw [List.getLast?_eq_getElem?] at last
  have outcome_last : t.outcome = outcomes tries.length := by
    rw [outcome_at _ t last, Nat.sub_add_cancel some]
  refine ⟨⟨⟨some, ?_⟩, ?_⟩, ?_, tries.map (·.events), List.length_map _, ?_, ?_⟩
  · rw [outcome_last] at spent
    cases passes : policy.passes (outcomes tries.length) with
    | false => exact .inl rfl
    | true => exact .inr (spent passes)
  · rintro m ⟨positive, stops⟩
    by_contra before
    have early : m - 1 < tries.dropLast.length := by
      rw [List.length_dropLast]
      omega
    have inside := Nat.lt_of_lt_of_le early tries.dropLast_sublist.length_le
    have at_m := List.getElem?_eq_getElem inside
    have passes := h.passed _ (List.getElem_mem early)
    rw [List.getElem_dropLast, outcome_at _ _ at_m, Nat.sub_add_cancel positive] at passes
    rw [passes] at stops
    have few := h.few
    have limit := stops.resolve_left nofun
    omega
  · rw [decided, outcome_last, Nat.zero_add]
  · intro i events at_i
    rw [List.getElem?_map, Option.map_eq_some_iff] at at_i
    obtain ⟨t, at_i, rfl⟩ := at_i
    rw [← outcome_at i t at_i]
    exact h.ran t (List.mem_of_getElem? at_i)
  · rw [List.map_map]
    exact h.paced

/-- A task whose attempts come out as given is attempted until the first of them succeeds or fails
for good, or no retry is left. -/
theorem run_attempted (policy : Policy) (name : String)
    (small : policy.maxRetries < 2 ^ 32 - 1) (gives : Gives handler calls task outcomes) {s : σ}
    (fresh : calls s = 0) :
    ∃ n < 2 ^ 32, calls ((run policy name task).run handler s).2 = n ∧
      Attempted policy task outcomes n ((run policy name task).trace handler s)
        ((run policy name task).run handler s).1 ∧
      (∀ i, (policy.delay i).nanos =
        min (policy.baseDelay.nanos * 2 ^ min (i - 1) 30) (2 ^ 64 * 10 ^ 9 - 1)) ∧
      Monotone fun i => (policy.delay i).nanos := by
  have ends : (run policy name task).Ends (recorded (answeredBy handler)) ([], s) fun result w =>
      ∃ tries events, w.1 = [] ++ events ∧
        Tries policy task (fun k o => o = outcomes k) (fun k _ s => calls s = k)
          (fun k s => calls s = k) 0 policy.maxRetries tries events result w.2 :=
    attempts_ends gives.idle (fun k s known => gives.ends known) 0 policy.maxRetries [] fresh
  obtain ⟨_, rfl, tries, events, same, h⟩ :=
    Job.Ends.traced (Job.follows_answeredBy handler) rfl ends
  obtain rfl := List.append_cancel_left same
  have few := h.few
  refine ⟨tries.length, by omega, ?_, h.attempted, policy.delay_nanos, policy.delay_monotone⟩
  have made : calls ((run policy name task).run handler s).2 = 0 + tries.length := by
    cases result : ((run policy name task).run handler s).1 with
    | ok value => exact h.good value result
    | error given => exact h.inv given result
  rw [made, Nat.zero_add]

/-- A handler that counts how often the records were counted, and refuses everything else. -/
def counting : Job.Handler Nat
  | .store .countAll, n => (.ok n, n + 1)
  | .store _, n => (.error (.message "no such question"), n)
  | .index _, n => (.error (.message "no such request"), n)
  | .pause _, n => ((), n)
  | .report _, n => ((), n)
  | .log _, n => ((), n)

/-- A task whose attempts come out one after the other as a sequence says. -/
def scripted (outcomes : Nat → Except Failure α) : Task α := do
  let made ← Task.store .countAll
  Task.ofOutcome (outcomes (made + 1))

/-- Every sequence is the sequence of the outcomes of a task. -/
theorem gives_scripted (outcomes : Nat → Except Failure α) :
    Gives counting id (scripted outcomes) outcomes :=
  ⟨fun _ => rfl, fun _ => rfl, fun _ _ => rfl, fun _ _ => rfl⟩

/-- Time-outs up to the third time. -/
def thirdTime (k : Nat) : Except Failure Nat :=
  if k < 3 then .error (.timeout "slow") else .ok k

/-- What succeeds at the third time is attempted three times. -/
theorem run_attempted_third :
    Attempted ⟨3, Span.ofSeconds 2, classifyTimeout⟩ (scripted thirdTime) thirdTime 3
      ((run ⟨3, Span.ofSeconds 2, classifyTimeout⟩ "count" (scripted thirdTime)).trace counting 0)
      (.ok 3) := by
  obtain ⟨n, -, made, attempted, -⟩ :=
    run_attempted ⟨3, Span.ofSeconds 2, classifyTimeout⟩ "count" (by decide)
      (gives_scripted thirdTime) (s := 0) rfl
  obtain rfl : n = 3 := made ▸ rfl
  exact attempted

end CatalogSearch.Retry
