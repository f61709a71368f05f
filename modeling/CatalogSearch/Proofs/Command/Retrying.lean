import CatalogSearch.Proofs.Command.Opening
import CatalogSearch.Proofs.Config.Accepted
import CatalogSearch.Proofs.Retry.Counted
import CatalogSearch.Proofs.Sync.Aborted

/-!
# Retries as configured

An accepted configuration says how often to retry, and how many seconds to wait before the first
retry, once for the pages of a sync and once for requests that time out. Each delay becomes a span
unless it is too long for one, and a policy made of it does what the configuration says unless there
are as many retries as 32 bits can count.
-/
namespace CatalogSearch

open Config (Accepted limit32)

def Index.Client.timeoutPolicy (client : Index.Client) : Retry.Policy :=
  ⟨client.timeoutRetries, client.timeoutBackoff, Retry.classifyTimeout⟩

namespace Retry

/-- A policy is what a number of retries, a delay in seconds and a rule come to. -/
structure Configured (policy : Policy) (retries : Nat) (seconds : ℚ) (classifier : Classifier) :
    Prop where
  maxRetries : policy.maxRetries = retries
  baseDelay : policy.baseDelay.Nearest seconds
  classifier : policy.classifier = classifier
  /-- Neither the factor of a pause nor the pause itself overflows. -/
  delay : ∀ retry, 2 ^ min (retry - 1) 30 ≤ limit32 ∧ (policy.delay retry).nanos =
    min (policy.baseDelay.nanos * 2 ^ min (retry - 1) 30) (2 ^ 64 * 10 ^ 9 - 1)
  sustains : retries < limit32 → Sustains policy
  overflows : retries = limit32 → Overflows policy

theorem configured {x : Double} {base : Span} (valid : x.isFinite = true ∧ 0 ≤ x.value)
    (span : Span.ofDouble? x = some base) (retries : Nat) (classifier : Classifier) :
    Configured ⟨retries, base, classifier⟩ retries x.value classifier where
  maxRetries := rfl
  baseDelay := (Span.nearest_of_ofDouble? valid.1 valid.2 span).1
  classifier := rfl
  delay retry := by
    have factor : 2 ^ min (retry - 1) 30 ≤ 2 ^ 30 :=
      Nat.pow_le_pow_right Nat.two_pos (Nat.min_le_right _ _)
    exact ⟨factor.trans (by decide), Policy.delay_nanos _ retry⟩
  sustains small := sustains_of_lt small
  overflows largest := overflows_of_eq largest

def timingOut : Task Nat := scripted fun _ => .error (.timeout "slow")

namespace Configured

variable {policy : Policy} {retries : Nat} {seconds : ℚ} {classifier : Classifier}

/-- Both rules let time-outs pass. -/
theorem fails (configured : Configured policy retries seconds classifier)
    (passes : classifier (.timeout "slow") = .retryable) :
    Fails policy counting id timingOut fun _ => .timeout "slow" :=
  ⟨gives_scripted _, fun _ => configured.classifier.symm ▸ passes⟩

/-- What times out each time is attempted once more than there are retries. -/
theorem gives_up (configured : Configured policy retries seconds classifier)
    (passes : classifier (.timeout "slow") = .retryable) (small : retries < limit32)
    (noted : Bool) (name : String) :
    (counted noted policy name timingOut 0).run counting 0 =
      (some (.error ⟨.timeout "slow", retries + 1, true⟩), retries + 1) := by
  obtain ⟨made, count, run⟩ :=
    (configured.sustains small).exhausts noted name (configured.fails passes) rfl
  obtain rfl : made = policy.maxRetries + 1 := count
  rwa [configured.maxRetries] at run

end Configured

end Retry

namespace Command

open Cluster (Backend)

variable {c : Config} {w : World}

theorem Session.connect_refused (mode : Progress.Mode) {f : Failure}
    (refused : Backend.connect c.index w.environment = .error f) :
    (Session.connect c mode).run w = (.error (.failure f), w) := by
  unfold Session.connect
  rw [Action.run_bind (Action.run_get w), refused]
  rfl

/-- Once the way to the index is known, only the first pause of the client is left to be worked
out. -/
theorem Session.connect_eq (mode : Progress.Mode) {backend : Backend}
    (connected : Backend.connect c.index w.environment = .ok backend) :
    ∃ entry, (Session.connect c mode).run w = match Config.timeoutBackoff? c.index with
      | none => (.error (.fault Config.spanFault), w.display (.entry entry))
      | some timeoutBackoff =>
        let client : Index.Client :=
          { bulkBackoff, timeoutRetries := c.index.timeoutRetries, timeoutBackoff }
        (.ok ⟨c, w.seatOf c.dbPath, backend, client, mode⟩, w.display (.entry entry)) := by
  refine ⟨⟨.debug, logTarget, "index client", [("url", c.index.url), ("index", c.index.name),
    ("aws", toString c.index.awsRegion.isSome)]⟩, ?_⟩
  unfold Session.connect
  rw [Action.run_bind (Action.run_get w), connected,
    Action.run_bind (Action.run_ofOutcome backend w)]
  cases Config.timeoutBackoff? c.index <;> rfl

theorem Session.exists_syncOptions (accepted : Accepted c)
    (short : c.sync.retryBaseDelaySecs.value < 2 ^ 64) (w : World) : ∃ options,
    (Session.syncOptions c).run w = (.ok options, w) ∧
      Retry.Configured (Sync.pagePolicy options) c.sync.maxRetries
        c.sync.retryBaseDelaySecs.value Retry.classifySync := by
  obtain ⟨finite, nonneg⟩ := accepted.retryBaseDelay
  obtain ⟨base, span⟩ := Span.exists_ofDouble? finite nonneg short
  refine ⟨{ maxRetries := c.sync.maxRetries, retryBaseDelay := base
            repairBatchSize := c.reconcile.batchSize }, ?_,
    Retry.configured ⟨finite, nonneg⟩ span c.sync.maxRetries Retry.classifySync⟩
  unfold Session.syncOptions Config.retryBaseDelay?
  rw [span]
  rfl

/-- What becomes of the retries of a configuration: of those of a page when the settings of a sync
are made, and of those of a request when the index is connected. -/
structure Retries (c : Config) (mode : Progress.Mode) (w : World) : Prop where
  pages : c.sync.retryBaseDelaySecs.value < 2 ^ 64 → ∃ options,
    (Session.syncOptions c).run w = (.ok options, w) ∧
      Retry.Configured (Sync.pagePolicy options) c.sync.maxRetries
        c.sync.retryBaseDelaySecs.value Retry.classifySync
  /-- A delay of a page that is too long is a fault. -/
  pages_fault : 2 ^ 64 ≤ c.sync.retryBaseDelaySecs.value →
    (Session.syncOptions c).run w = (.error (.fault Config.spanFault), w)
  /-- Without a way to the index there is an ordinary failure, whatever the delay. -/
  refused : ∀ f, Backend.connect c.index w.environment = .error f →
    (Session.connect c mode).run w = (.error (.failure f), w)
  requests : ∀ backend, Backend.connect c.index w.environment = .ok backend →
    c.index.timeoutBackoffSecs.value < 2 ^ 64 → ∃ session entry,
      (Session.connect c mode).run w = (.ok session, w.display (.entry entry)) ∧
        session.backend = backend ∧
        Retry.Configured session.client.timeoutPolicy c.index.timeoutRetries
          c.index.timeoutBackoffSecs.value Retry.classifyTimeout
  /-- A delay of a request that is too long is a fault. -/
  requests_fault : ∀ backend, Backend.connect c.index w.environment = .ok backend →
    2 ^ 64 ≤ c.index.timeoutBackoffSecs.value → ∃ entry,
      (Session.connect c mode).run w =
        (.error (.fault Config.spanFault), w.display (.entry entry))

/-- An accepted configuration is retried as it says, pages as well as requests, as long as the delay
is below two to the 64 seconds and the number of retries is not the greatest one of 32 bits. With a
longer delay there are no settings and no connection, and with that many retries a task that keeps
failing is never given up. -/
theorem retries_of_accepted (accepted : Accepted c) (mode : Progress.Mode) (w : World) :
    Retries c mode w where
  pages short := Session.exists_syncOptions accepted short w
  pages_fault long := by
    obtain ⟨finite, nonneg⟩ := accepted.retryBaseDelay
    have none := (Span.ofDouble?_eq_none_iff finite nonneg).2 long
    unfold Session.syncOptions Config.retryBaseDelay?
    rw [none]
    rfl
  refused _ := Session.connect_refused mode
  requests backend connected short := by
    obtain ⟨finite, nonneg⟩ := accepted.timeoutBackoff
    obtain ⟨base, span⟩ := Span.exists_ofDouble? finite nonneg short
    obtain ⟨entry, run⟩ := Session.connect_eq mode connected
    rw [Config.timeoutBackoff?, span] at run
    exact ⟨_, entry, run, rfl, Retry.configured ⟨finite, nonneg⟩ span c.index.timeoutRetries
      Retry.classifyTimeout⟩
  requests_fault backend connected long := by
    obtain ⟨finite, nonneg⟩ := accepted.timeoutBackoff
    have none := (Span.ofDouble?_eq_none_iff finite nonneg).2 long
    obtain ⟨entry, run⟩ := Session.connect_eq mode connected
    rw [Config.timeoutBackoff?, none] at run
    exact ⟨entry, run⟩

/-- A standard delay is a short one. -/
theorem value_standard_lt : (Double.ofNat 2).value < 2 ^ 64 := by
  have nonneg := (Double.value_nonneg_iff (Double.ofNat 2)).2 (.inr rfl)
  exact_mod_cast (Double.value_lt_iff nonneg (2 ^ 64)).2 (by decide)

/-- The standard configuration, with an index on the same computer. -/
def localConfig : Config :=
  { dbPath := "catalog.sqlite", index := { url := "https://[::1]:9200" } }

/-- By the standard configuration, what times out each time is attempted four times. -/
theorem retries_of_accepted_local : Accepted localConfig ∧
    (∃ options, (Session.syncOptions localConfig).run default = (.ok options, default) ∧
      (Retry.counted true (Sync.pagePolicy options) "sync page 1" Retry.timingOut 0).run
        Retry.counting 0 = (some (.error ⟨.timeout "slow", 4, true⟩), 4)) ∧
    ∃ session w, (Session.connect localConfig .off).run default = (.ok session, w) ∧
      (Retry.counted true session.client.timeoutPolicy "count" Retry.timingOut 0).run
        Retry.counting 0 = (some (.error ⟨.timeout "slow", 4, true⟩), 4) := by
  have accepted : Accepted localConfig := ⟨rfl, by decide, by decide⟩
  have retries := retries_of_accepted accepted .off default
  have few : 3 < limit32 := by decide
  refine ⟨accepted, ?_, ?_⟩
  · obtain ⟨options, run, configured⟩ := retries.pages value_standard_lt
    exact ⟨options, run, configured.gives_up (by decide) few true "sync page 1"⟩
  · have reached : (Backend.connect localConfig.index []).isOk = true := by decide
    cases connected : Backend.connect localConfig.index [] with
    | error f => simp [connected, Except.isOk, Except.toBool] at reached
    | ok backend =>
      obtain ⟨session, entry, run, -, configured⟩ :=
        retries.requests backend connected value_standard_lt
      exact ⟨session, _, run, configured.gives_up (by decide) few true "count"⟩

/-- A delay that is finite, but too long for a span. -/
def longDelay : Config :=
  { dbPath := "catalog.sqlite", sync := { retryBaseDelaySecs := Double.ofNat (10 ^ 20) } }

def mostRetries : Config :=
  { dbPath := "catalog.sqlite", sync := { maxRetries := limit32 } }

/-- Both of these configurations are accepted. With the one there are no settings of a sync, and
with the other what times out each time is not given up before the counter overflows. -/
theorem accepted_breaks :
    (Accepted longDelay ∧ (Session.syncOptions longDelay).run default =
      (.error (.fault Config.spanFault), default)) ∧
    Accepted mostRetries ∧ ∃ options,
      (Session.syncOptions mostRetries).run default = (.ok options, default) ∧
        (Retry.counted false (Sync.pagePolicy options) "sync page 1" Retry.timingOut 0).run
          Retry.counting 0 = (none, limit32) := by
  have accepted : Accepted mostRetries := ⟨rfl, by decide, by decide⟩
  obtain ⟨options, run, configured⟩ :=
    Session.exists_syncOptions accepted value_standard_lt default
  obtain ⟨_, rfl, overflow⟩ :=
    configured.overflows rfl false "sync page 1" (configured.fails (by decide)) rfl
  exact ⟨⟨⟨rfl, by decide, by decide⟩, rfl⟩, accepted, options, run, overflow⟩

end Command

end CatalogSearch
