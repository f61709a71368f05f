import CatalogSearch.Proofs.Index.Schema
import CatalogSearch.Proofs.Rehearsal.Struck
import CatalogSearch.Proofs.Retry.Attempts
import Mathlib

/-!
# Schema management under time-outs

A request that times out may or may not have taken effect. A client that tries its schema request
again thus finds the index as it was, dropped, or created already, and still ends where a single
undisturbed attempt would have. Each failed attempt uses up one time-out of the schedule, so retries
run out only when there are more time-outs than retries.
-/
namespace CatalogSearch

def Failure.IsTimeout (f : Failure) : Prop := ∃ detail, f = .timeout detail

theorem Failure.IsTimeout.classify {f : Failure} (h : f.IsTimeout) :
    Retry.classifyTimeout f = .retryable := by
  obtain ⟨detail, rfl⟩ := h
  rfl

theorem Failure.IsTimeout.isNotFound {f : Failure} (h : f.IsTimeout) : f.isNotFound = false := by
  obtain ⟨detail, rfl⟩ := h
  rfl

namespace Rehearsal

/-- What becomes of a call that can only be late. -/
inductive Delay where
  | onTime
  /-- It times out and has no effect. -/
  | before (detail : String)
  /-- It takes effect, and its answer is not waited for. -/
  | after (detail : String)
  deriving DecidableEq

def Delay.fate : Delay → Fate
  | onTime => .answered
  | before detail => .refused (.timeout detail)
  | after detail => .lost (.timeout detail)

/-- Run a task to its outcome, where the calls are late as a schedule says. -/
def Stage.runDelayed {α : Type} (delays : Nat → Delay) (s : Stage) (task : Task α) :
    Except Failure α × Stage :=
  let (outcome, _, after) := task.attempt.run (struck (fun n => (delays n).fate) handler) (0, s)
  (outcome, after)

/-- How many of the first calls are late. -/
def late (delays : Nat → Delay) (calls : Nat) : Nat :=
  Nat.count (fun n => delays n ≠ .onTime) calls

variable {delays : Nat → Delay} {n : Nat}

theorem late_of_onTime (h : delays n = .onTime) : late delays (n + 1) = late delays n := by
  simp [late, Nat.count_succ, h]

theorem late_of_late (h : delays n ≠ .onTime) : late delays (n + 1) = late delays n + 1 := by
  simp [late, Nat.count_succ, h]

/-- No more calls are late than the schedule holds. -/
theorem late_le_encard (delays : Nat → Delay) (calls : Nat) :
    (late delays calls : ℕ∞) ≤ {n | delays n ≠ .onTime}.encard := by
  rw [late, Nat.count_eq_card_filter_range, ← Set.encard_coe_eq_coe_finsetCard]
  exact Set.encard_le_encard fun n mem => (Finset.mem_filter.1 mem).2

/-- Requests to an index in memory, each of which may time out before it takes effect or after; the
time-outs are counted. The store may answer anything, and may be late as well. -/
def delayed : Semantics (Nat × Index.Memory)
  | .index call, w, answer, w' =>
    (answer = (w.2.answer call).1 ∧ w' = (w.1, (w.2.answer call).2)) ∨
    ((∃ f : Failure, f.IsTimeout ∧ answer = .error f) ∧ w'.1 = w.1 + 1 ∧
      (w'.2 = w.2 ∨ w'.2 = (w.2.answer call).2))
  | .store _, w, _, w' => w'.2 = w.2
  | .pause _, w, _, w' => w' = w
  | .report _, w, _, w' => w' = w
  | .log _, w, _, w' => w' = w

theorem idle_delayed (inv : Nat × Index.Memory → Prop) : Idle delayed inv where
  log _ _ _ _ step h := step ▸ h
  pause _ _ _ _ step h := step ▸ h

/-- What the count and the index are in a rehearsal under a schedule of time-outs. -/
def ShowsLate (store : Store.Memory) (delays : Nat → Delay) (s : Nat × Stage)
    (w : Nat × Index.Memory) : Prop :=
  w.1 = late delays s.1 ∧ ∃ journal, s.2 = calm store w.2 journal

/-- A rehearsal in which calls are late stays within this. -/
theorem delayed_follows (store : Store.Memory) (delays : Nat → Delay) :
    Job.Follows (struck (fun n => (delays n).fate) Stage.handler) (ShowsLate store delays)
      delayed := by
  rintro effect ⟨n, s⟩ ⟨k, m⟩ ⟨counted, journal, shown⟩
  obtain rfl : k = late delays n := counted
  obtain rfl : s = calm store m journal := shown
  obtain ⟨journal', answered⟩ := handler_calm store m journal effect
  cases effect with
  | store call =>
    simp only [struck, answered]
    cases (delays n).fate with
    | answered => exact ⟨(late delays (n + 1), m), rfl, rfl, journal', rfl⟩
    | refused failure => exact ⟨(late delays (n + 1), m), rfl, rfl, journal, rfl⟩
    | lost failure => exact ⟨(late delays (n + 1), m), rfl, rfl, journal', rfl⟩
  | index call =>
    simp only [struck, answered]
    cases delay : delays n with
    | onTime =>
      exact ⟨(_, (m.answer call).2), .inl ⟨rfl, rfl⟩, (late_of_onTime delay).symm, journal', rfl⟩
    | before detail =>
      have counts := late_of_late (show delays n ≠ .onTime by simp [delay])
      exact ⟨(_, m), .inr ⟨⟨_, ⟨detail, rfl⟩, rfl⟩, rfl, .inl rfl⟩, counts.symm, journal, rfl⟩
    | after detail =>
      have counts := late_of_late (show delays n ≠ .onTime by simp [delay])
      exact ⟨(_, (m.answer call).2), .inr ⟨⟨_, ⟨detail, rfl⟩, rfl⟩, rfl, .inr rfl⟩, counts.symm,
        journal', rfl⟩
  | pause span => exact ⟨_, rfl, rfl, journal', congrArg Prod.snd answered⟩
  | report event => exact ⟨_, rfl, rfl, journal', congrArg Prod.snd answered⟩
  | log entry => exact ⟨_, rfl, rfl, journal', congrArg Prod.snd answered⟩

/-- A request is answered in time and counts for nothing, or it counts as one time-out and may have
had its effect all the same. -/
theorem ends_delayed (k : Nat) (m : Index.Memory) (call : Index.Call) :
    (Task.index call).Ends delayed (k, m) (fun a w => m.answer call = (.ok a, w.2) ∧ w.1 = k)
      fun f w => (m.answer call = (.error f, w.2) ∧ w.1 = k) ∨
        (f.IsTimeout ∧ w.1 = k + 1 ∧ (w.2 = m ∨ w.2 = (m.answer call).2)) := by
  rintro answer w (⟨same, rfl⟩ | ⟨⟨f, timeout, rfl⟩, counts, left⟩)
  · cases answer with
    | ok a => exact ⟨Prod.ext same.symm rfl, rfl⟩
    | error f => exact .inl ⟨Prod.ext same.symm rfl, rfl⟩
  · exact .inr ⟨timeout, counts, left⟩

/-- A request that the index can answer fails only by a time-out. -/
theorem ends_delayed_ok {k : Nat} {m after : Index.Memory} {call : Index.Call} {value : call.Answer}
    (h : m.answer call = (.ok value, after)) :
    (Task.index call).Ends delayed (k, m) (fun a w => a = value ∧ w = (k, after))
      fun f w => f.IsTimeout ∧ w.1 = k + 1 ∧ (w.2 = m ∨ w.2 = after) := by
  refine (ends_delayed k m call).mono ?_ ?_
  · rintro a ⟨k', m'⟩ ⟨answered, rfl⟩
    obtain ⟨same, rfl⟩ := Prod.mk.inj (h.symm.trans answered)
    exact ⟨(Except.ok.inj same).symm, rfl⟩
  · rintro f w (⟨answered, -⟩ | late)
    · cases (Prod.mk.inj (h.symm.trans answered)).1
    · rwa [h] at late

end Rehearsal

namespace Index

open Rehearsal

/-- The index as it is after it was dropped and created. -/
def Memory.renewed (m : Memory) : Memory :=
  { m with mapping := some fixedMapping, documents := [] }

/-- What an absent index that holds nothing is established as. -/
theorem Memory.established_of_absent {m : Memory} (absent : m.mapping = none)
    (empty : m.documents = []) : m.established = m.renewed := by
  simp [established, renewed, absent, empty]

namespace Client

variable {k : Nat} {m m₀ : Memory}

/-- One attempt at creating the index if it is absent. -/
theorem ensureSchema_delayed (k : Nat) (m : Memory) :
    ensureSchema.Ends delayed (k, m) (fun _ w => w = (k, m.established))
      fun f w => f.IsTimeout ∧ w.1 = k + 1 ∧ (w.2 = m ∨ w.2 = m.established) := by
  refine ensureSchema_rule (fun w => w = (k, m) ∧ m.mapping = none) (idle_delayed _) ?_ ?_
  · refine (ends_delayed_ok (rfl : m.answer .exists = (.ok m.mapping.isSome, m))).mono ?_ ?_
    · rintro _ _ ⟨rfl, rfl⟩
      cases mapping : m.mapping with
      | none => exact ⟨rfl, rfl⟩
      | some _ => exact congrArg (k, ·) (Memory.established_of_some mapping).symm
    · rintro f w ⟨timeout, counts, left⟩
      exact ⟨timeout, counts, .inl (left.elim id id)⟩
  · rintro _ ⟨rfl, absent⟩
    exact (ends_delayed_ok (Memory.answer_create absent)).mono (fun _ _ h => h.2) fun _ _ h => h

/-- What an attempt at recreating an index leaves, if it fails: an index that is to be recreated to
the same. -/
structure Renewing (m m' : Memory) : Prop where
  renewed : m'.renewed = m.renewed
  absent : m'.mapping = none → m'.documents = []

theorem Renewing.dropped (h : Renewing m₀ m) : Renewing m₀ m.dropped where
  renewed := h.renewed
  absent _ := rfl

theorem Renewing.established (h : Renewing m₀ m) : Renewing m₀ m.established where
  renewed := h.renewed
  absent none := by simp [Memory.established] at none

/-- One attempt at recreating the index, whatever the attempts before it left. -/
theorem recreateSchema_delayed (k : Nat) (h : Renewing m₀ m) :
    recreateSchema.Ends delayed (k, m) (fun _ w => w = (k, m₀.renewed))
      fun f w => f.IsTimeout ∧ w.1 = k + 1 ∧ Renewing m₀ w.2 := by
  refine recreateSchema_rule (fun w => w.1 = k ∧ Renewing m₀ w.2 ∧ w.2.mapping = none)
    (idle_delayed _) ?_ ?_
  -- An absent index is said to be absent or nothing is said; one that exists is dropped, or an
  -- answer is missing and it may be gone all the same.
  · cases mapping : m.mapping with
    | none =>
      have missed := Memory.answer_drop_of_none mapping
      refine (ends_delayed k m .drop).mono ?_ ?_
      · rintro _ w ⟨answered, -⟩
        cases (Prod.mk.inj (missed.symm.trans answered)).1
      · rintro f ⟨_, m'⟩ (⟨answered, rfl⟩ | ⟨timeout, counts, left⟩)
        · obtain ⟨same, rfl⟩ := Prod.mk.inj (missed.symm.trans answered)
          rw [← Except.error.inj same]
          exact ⟨rfl, h, mapping⟩
        · rw [missed, or_self] at left
          rw [timeout.isNotFound]
          exact ⟨timeout, counts, left ▸ h⟩
    | some _ =>
      refine (ends_delayed_ok (Memory.answer_drop_of_some mapping)).mono ?_ ?_
      · rintro _ _ ⟨-, rfl⟩
        exact ⟨rfl, h.dropped, rfl⟩
      · rintro f ⟨_, _⟩ ⟨timeout, counts, rfl | rfl⟩
        · rw [timeout.isNotFound]
          exact ⟨timeout, counts, h⟩
        · rw [timeout.isNotFound]
          exact ⟨timeout, counts, h.dropped⟩
  · rintro ⟨_, m'⟩ ⟨rfl, renewing, absent⟩
    refine (ensureSchema_delayed _ m').mono ?_ ?_
    · rintro _ _ rfl
      rw [Memory.established_of_absent absent (renewing.absent absent), renewing.renewed]
    · rintro f ⟨_, _⟩ ⟨timeout, counts, rfl | rfl⟩
      · exact ⟨timeout, counts, renewing⟩
      · exact ⟨timeout, counts, renewing.established⟩

variable {task : Task Unit}

/-- Each attempt that fails uses up one time-out, so a task is given up only after more time-outs
than there are retries. -/
theorem withTimeoutRetry_delayed (client : Client) (name : String) (inv good : Memory → Prop)
    (each : ∀ k m, inv m → task.Ends delayed (k, m) (fun _ w => good w.2)
      fun f w => f.IsTimeout ∧ w.1 = k + 1 ∧ inv w.2) (start : inv m) :
    (client.withTimeoutRetry name task).Ends (Job.recorded delayed) ([], (0, m))
      (fun _ w => good w.2.2) fun _ w => client.timeoutRetries < w.2.1 := by
  have attempt (k : Nat) (w : Nat × Memory) (h : w.1 = k ∧ inv w.2) :
      task.Ends delayed w (fun _ w' => good w'.2) fun f w' =>
        Retry.classifyTimeout f = .retryable ∧ w'.1 = k + 1 ∧ inv w'.2 := by
    obtain ⟨rfl, kept⟩ := h
    exact (each w.1 w.2 kept).mono (fun _ _ h => h) fun _ _ h => ⟨h.1.classify, h.2⟩
  refine Job.ends_bind.2 ((Retry.run_exhausts (fun _ => idle_delayed _) attempt
    ⟨rfl, start⟩).mono ?_)
  rintro result w h
  cases result with
  | ok a => exact h
  | error given =>
    have counts : w.2.1 = client.timeoutRetries + 1 := h.1
    change client.timeoutRetries < w.2.1
    omega

theorem recreateSchema_retried (client : Client) (name : String)
    (absent : m.mapping = none → m.documents = []) :
    (client.withTimeoutRetry name recreateSchema).Ends (Job.recorded delayed) ([], (0, m))
      (fun _ w => w.2.2 = m.renewed) fun _ w => client.timeoutRetries < w.2.1 := by
  refine client.withTimeoutRetry_delayed name (Renewing m) (· = m.renewed) (fun k m' h => ?_)
    ⟨rfl, absent⟩
  exact (recreateSchema_delayed k h).mono (fun _ _ same => congrArg Prod.snd same) fun _ _ h => h

theorem ensureSchema_retried (client : Client) (name : String) (m : Memory) :
    (client.withTimeoutRetry name ensureSchema).Ends (Job.recorded delayed) ([], (0, m))
      (fun _ w => w.2.2 = m.established) fun _ w => client.timeoutRetries < w.2.1 := by
  refine client.withTimeoutRetry_delayed name (fun m' => m' = m ∨ m' = m.established)
    (· = m.established) (fun k m' h => ?_) (.inl rfl)
  have same : m'.established = m.established := by
    obtain rfl | rfl := h
    · rfl
    · exact m.established_established
  refine (ensureSchema_delayed k m').mono ?_ ?_
  · rintro _ _ rfl
    exact same
  · rintro f w ⟨timeout, counts, left | left⟩
    · exact ⟨timeout, counts, left ▸ h⟩
    · exact ⟨timeout, counts, .inr (left.trans same)⟩

variable {index : Memory}

/-- What a task leaves that is tried again after time-outs, and when it succeeds. -/
theorem runDelayed_ends {client : Client} {name : String} (delays : Nat → Delay)
    (store : Store.Memory) (journal : Journal) (good : Memory → Prop)
    (h : (client.withTimeoutRetry name task).Ends (Job.recorded delayed) ([], (0, index))
      (fun _ w => good w.2.2) fun _ w => client.timeoutRetries < w.2.1) :
    ∃ outcome index' journal',
      (calm store index journal).runDelayed delays (client.withTimeoutRetry name task) =
        (outcome, calm store index' journal') ∧
      (outcome = .ok () → good index') ∧
      ({n | delays n ≠ .onTime}.encard ≤ client.timeoutRetries → outcome = .ok ()) := by
  obtain ⟨⟨k, index'⟩, ⟨counted, journal', left⟩, post⟩ :=
    Job.Ends.traced (delayed_follows store delays) (s := (0, calm store index journal))
      ⟨rfl, journal, rfl⟩ h
  unfold Stage.runDelayed
  generalize (client.withTimeoutRetry name task).attempt.run
    (struck (fun n => (delays n).fate) Stage.handler) (0, calm store index journal) = ran at *
  obtain ⟨outcome, calls, after⟩ := ran
  obtain rfl : after = calm store index' journal' := left
  obtain rfl : k = late delays calls := counted
  refine ⟨outcome, index', journal', rfl, ?_, fun few => ?_⟩
  · rintro rfl
    exact post
  · cases outcome with
    | ok a => rfl
    | error f =>
      have most := (late_le_encard delays calls).trans few
      exact absurd post (Nat.not_lt.2 (Nat.cast_le.1 most))

/-- Schema requests that are tried again after time-outs do their work, whatever of it an attempt
that timed out has done already, and do it within as many retries as there are time-outs. -/
theorem schema_under_delays (client : Client) (name : String) (delays : Nat → Delay)
    (store : Store.Memory) (index : Memory) (journal : Journal)
    (absent : index.mapping = none → index.documents = []) :
    ∃ recreated ensured renewed established after after',
      (calm store index journal).runDelayed delays (client.withTimeoutRetry name recreateSchema) =
        (recreated, calm store renewed after) ∧
      (calm store index journal).runDelayed delays (client.withTimeoutRetry name ensureSchema) =
        (ensured, calm store established after') ∧
      (recreated = .ok () → renewed.mapping = some fixedMapping ∧ renewed.documents = []) ∧
      (ensured = .ok () → established.documents = index.documents ∧
        established.mapping = some (index.mapping.getD fixedMapping)) ∧
      ({n | delays n ≠ .onTime}.encard ≤ client.timeoutRetries →
        recreated = .ok () ∧ ensured = .ok ()) := by
  obtain ⟨recreated, renewed, after, ran, remade, enough⟩ :=
    runDelayed_ends delays store journal (· = index.renewed)
      (client.recreateSchema_retried name absent)
  obtain ⟨ensured, established, after', ran', made, enough'⟩ :=
    runDelayed_ends delays store journal (· = index.established)
      (client.ensureSchema_retried name index)
  refine ⟨recreated, ensured, renewed, established, after, after', ran, ran', ?_, ?_,
    fun few => ⟨enough few, enough' few⟩⟩
  · intro ok
    rw [remade ok]
    exact ⟨rfl, rfl⟩
  · intro ok
    rw [made ok]
    exact ⟨rfl, rfl⟩

/-- Neither the first nor the fourth answer arrives. -/
def lostTwice (n : Nat) : Delay :=
  if n = 0 ∨ n = 3 then .after "slow" else .onTime

def oneDocument : Memory := ({} : Memory).put { (default : Document) with id := "a" }

/-- An index with a document is dropped and created although two answers are lost. -/
theorem schema_under_delays_lost :
    {n | lostTwice n ≠ .onTime}.encard ≤ ({} : Client).timeoutRetries ∧
    ∃ renewed established after after',
      (calm {} oneDocument {}).runDelayed lostTwice
        (({} : Client).withTimeoutRetry "schema" recreateSchema) = (.ok (), calm {} renewed after) ∧
      (calm {} oneDocument {}).runDelayed lostTwice
        (({} : Client).withTimeoutRetry "schema" ensureSchema) =
        (.ok (), calm {} established after') ∧
      renewed.mapping = some fixedMapping ∧ renewed.documents = [] ∧
      established.documents = oneDocument.documents ∧
      established.mapping = oneDocument.mapping := by
  have few : {n | lostTwice n ≠ .onTime}.encard ≤ ({} : Client).timeoutRetries := by
    have inside : {n | lostTwice n ≠ .onTime} ⊆ {0, 3} := by
      intro n late
      by_contra other
      exact late (if_neg other)
    refine (Set.encard_le_encard inside).trans ?_
    rw [Set.encard_pair (by decide)]
    decide
  obtain ⟨_, _, renewed, established, after, after', ran, ran', made, made', enough⟩ :=
    schema_under_delays {} "schema" lostTwice {} oneDocument {} nofun
  obtain ⟨rfl, rfl⟩ := enough few
  exact ⟨few, renewed, established, after, after', ran, ran', (made rfl).1, (made rfl).2, made' rfl⟩

end Client

end Index

end CatalogSearch
