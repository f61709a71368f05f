import CatalogSearch.Proofs.Config.Overriding
import CatalogSearch.Proofs.Time.Seconds

/-!
# Accepted configurations

The checks ask of a delay no more than that it is finite and not negative, and of a number of
retries nothing at all; that it fits in 32 bits is known from reading it.
-/
namespace CatalogSearch.Config

theorem isDelay_iff (x : Double) : isDelay x = true ↔ x.isFinite = true ∧ 0 ≤ x.value := by
  rw [Double.value_nonneg_iff]
  simp [isDelay]

/-- A configuration passes just if it names an index, no limit is zero, and the delays are finite
and not negative. -/
theorem problem?_eq_none_iff (c : Config) : c.problem? = none ↔
    (Text.trim c.index.name).isEmpty = false ∧ c.index.timeoutSecs ≠ 0 ∧ c.sync.perPage ≠ 0 ∧
      c.reconcile.batchSize ≠ 0 ∧
      (c.sync.retryBaseDelaySecs.isFinite = true ∧ 0 ≤ c.sync.retryBaseDelaySecs.value) ∧
      (c.index.timeoutBackoffSecs.isFinite = true ∧ 0 ≤ c.index.timeoutBackoffSecs.value) := by
  rw [← isDelay_iff, ← isDelay_iff, problem?]
  split_ifs <;> simp_all

theorem validate_eq_ok_iff {c c' : Config} : validate c = .ok c' ↔ c.problem? = none ∧ c = c' := by
  unfold validate
  split
  · next text wrong => simp [wrong]
  · next fine => simp [fine]

/-- A configuration that the checks accept, of numbers that fit in what they are read into. -/
structure Accepted (c : Config) : Prop where
  passes : validate c = .ok c
  maxRetries : c.sync.maxRetries ≤ limit32
  timeoutRetries : c.index.timeoutRetries ≤ limit32

namespace Accepted

variable {c : Config}

theorem retryBaseDelay (accepted : Accepted c) :
    c.sync.retryBaseDelaySecs.isFinite = true ∧ 0 ≤ c.sync.retryBaseDelaySecs.value := by
  obtain ⟨-, -, -, -, delay, -⟩ :=
    (problem?_eq_none_iff c).1 (validate_eq_ok_iff.1 accepted.passes).1
  exact delay

theorem timeoutBackoff (accepted : Accepted c) :
    c.index.timeoutBackoffSecs.isFinite = true ∧ 0 ≤ c.index.timeoutBackoffSecs.value := by
  obtain ⟨-, -, -, -, -, delay⟩ :=
    (problem?_eq_none_iff c).1 (validate_eq_ok_iff.1 accepted.passes).1
  exact delay

end Accepted

/-- What holds of all that can be read into a field, and of what stands in for it, holds of the
field. -/
theorem getD_of_optionalMember {α : Type} {kind : Toml → Option α} {P : α → Prop}
    {value : Option Toml} {found : Option α} {standard : α}
    (read : optionalMember kind value = some found) (fits : ∀ v a, kind v = some a → P a)
    (default : P standard) : P (found.getD standard) := by
  cases value with
  | none =>
    obtain rfl := Option.some.inj read
    exact default
  | some v =>
    obtain ⟨a, value_read, rfl⟩ := Option.map_eq_some_iff.1 read
    exact fits v a value_read

theorem nat?_le {limit n : Nat} {value : Toml} (read : nat? limit value = some n) :
    n ≤ limit := by
  unfold nat? at read
  split at read
  · simp only [Option.ite_none_right_eq_some, Bool.and_eq_true, decide_eq_true_eq,
      Option.some.injEq] at read
    omega
  · cases read

theorem timeoutRetries_of_readIndex {value : Toml} {c : IndexConfig}
    (read : readIndex value = some c) : c.timeoutRetries ≤ limit32 := by
  unfold readIndex at read
  split at read
  · cases read
  · simp only [Option.bind_eq_bind, Option.bind_eq_some_iff] at read
    obtain ⟨_, -, _, -, _, -, _, -, _, -, _, -, _, -, retries, fits, _, -, same⟩ := read
    obtain rfl := Option.some.inj same
    exact getD_of_optionalMember fits (fun _ _ => nat?_le) (by decide)

theorem maxRetries_of_readSync {value : Toml} {c : SyncConfig} (read : readSync value = some c) :
    c.maxRetries ≤ limit32 := by
  unfold readSync at read
  split at read
  · cases read
  · simp only [Option.bind_eq_bind, Option.bind_eq_some_iff] at read
    obtain ⟨_, -, retries, fits, _, -, same⟩ := read
    obtain rfl := Option.some.inj same
    exact getD_of_optionalMember fits (fun _ _ => nat?_le) (by decide)

theorem retries_of_ofToml {value : Toml} {c : Config} (read : ofToml value = some c) :
    c.sync.maxRetries ≤ limit32 ∧ c.index.timeoutRetries ≤ limit32 := by
  unfold ofToml at read
  simp only [Option.bind_eq_bind, Option.bind_eq_some_iff] at read
  obtain ⟨_, -, _, -, index, index_read, sync, sync_read, _, -, same⟩ := read
  obtain rfl := Option.some.inj same
  constructor
  · exact getD_of_optionalMember (P := fun s : SyncConfig => s.maxRetries ≤ limit32) sync_read
      (fun _ _ => maxRetries_of_readSync) (by decide)
  · exact getD_of_optionalMember (P := fun i : IndexConfig => i.timeoutRetries ≤ limit32)
      index_read (fun _ _ => timeoutRetries_of_readIndex) (by decide)

/-- What is loaded was accepted, with or without an override. -/
theorem accepted_of_load {path : String} {content : Except String String} {host : Option String}
    {c : Config} (loaded : (load path content host).1 = .ok c) : Accepted c := by
  unfold load at loaded
  split at loaded
  · cases loaded
  · split at loaded
    · cases loaded
    · next file read =>
      obtain ⟨toml, -, read⟩ := Option.bind_eq_some_iff.1 read
      obtain ⟨maxRetries, timeoutRetries⟩ := retries_of_ofToml read
      dsimp only at loaded
      obtain ⟨fine, same⟩ := validate_eq_ok_iff.1 loaded
      rw [same] at fine
      refine ⟨validate_eq_ok_iff.2 ⟨fine, rfl⟩, ?_, ?_⟩
      · rw [← same]
        split <;> exact maxRetries
      · rw [← same]
        split
        · exact timeoutRetries
        · dsimp only
          rw [overrideHost_frame]
          exact timeoutRetries

end CatalogSearch.Config
