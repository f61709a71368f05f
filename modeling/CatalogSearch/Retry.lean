import CatalogSearch.Job
import CatalogSearch.Text.Blank
import CatalogSearch.Text.Quoted

/-!
# Retrying

A task that fails in a way that may pass is done again after a pause. The pause before the n-th
retry is the base delay times two to the n - 1; beyond the 31st it no longer grows. Which failures
may pass is for a classifier to say.
-/
namespace CatalogSearch.Retry

inductive Decision where
  | retryable | fatal
  deriving DecidableEq, Repr

abbrev Classifier : Type := Failure → Decision

/-- How often to retry, how long to wait, and what may pass. -/
structure Policy where
  /-- Attempts after the first. -/
  maxRetries : Nat
  baseDelay : Span
  classifier : Classifier

/-- The pause before a retry, counted from one. -/
def Policy.delay (policy : Policy) (retry : Nat) : Span :=
  policy.baseDelay.scale (twoTo (min (retry - 1) 30))

/-- The end of a task that was given up. -/
structure GivenUp where
  failure : Failure
  /-- The attempts made, the first included. -/
  attempts : Nat
  /-- Was the last failure one that may pass, with no retry left? -/
  exhausted : Bool
  deriving DecidableEq, Repr

def logTarget : String := "catalog_index_core::retry"

def secondsText (span : Span) : String :=
  span.toDouble.text Double.plainLayout

def logCeiling (name : String) (attempts : Nat) (failure : Failure) : Job Unit :=
  Job.log .error logTarget "retry ceiling reached"
    [("operation", Text.quoted name), ("attempts", toString attempts), ("error", failure.full)]

def logAttempt (policy : Policy) (name : String) (attempt : Nat) (failure : Failure) : Job Unit :=
  Job.log .warn logTarget "attempt failed, retrying after backoff"
    [("operation", Text.quoted name), ("attempt", toString attempt),
      ("max_attempts", toString ((policy.maxRetries + 1) % twoTo 32)),
      ("delay_secs", secondsText (policy.delay attempt)), ("error", failure.full)]

/-- Attempt a task that has been attempted `made` times, with some retries left. -/
def attempts {α : Type} (policy : Policy) (name : String) (task : Task α) (made : Nat) :
    Nat → Job (Except GivenUp α)
  | 0 => do
    match ← task.attempt with
    | .ok value => return .ok value
    | .error failure =>
      match policy.classifier failure with
      | .fatal => return .error ⟨failure, made + 1, false⟩
      | .retryable =>
        logCeiling name (made + 1) failure
        return .error ⟨failure, made + 1, true⟩
  | left + 1 => do
    match ← task.attempt with
    | .ok value => return .ok value
    | .error failure =>
      match policy.classifier failure with
      | .fatal => return .error ⟨failure, made + 1, false⟩
      | .retryable =>
        logAttempt policy name (made + 1) failure
        Job.pause (policy.delay (made + 1))
        attempts policy name task (made + 1) left

/-- Do a task until it succeeds, fails for good, or no retry is left. -/
def run {α : Type} (policy : Policy) (name : String) (task : Task α) : Job (Except GivenUp α) :=
  attempts policy name task 0 policy.maxRetries

/-- Phrases by which a store says that a transaction lost a race. -/
def conflictMarkers : List String :=
  ["could not serialize access", "conflict with recovery", "database is locked"]

/-- A character without its case, where the long s and the Kelvin sign count as letters. -/
def foldChar (c : Char) : Char :=
  if c = 'ſ' then 's' else if c.toNat = 0x212A then 'k' else c.toLower

/-- Does a text hold a conflict marker in any case? -/
def mentionsConflict (text : String) : Bool :=
  let folded := text.toList.map foldChar
  conflictMarkers.any fun marker => Text.containsRun marker.toList folded

/-- Does any level of a failure read like a lost race in the store? -/
def isSerializationConflict (f : Failure) : Bool :=
  f.levels.any mentionsConflict

/-- Only time-outs of the index may pass. -/
def classifyTimeout : Classifier := fun f =>
  match f.indexError? with
  | some (.timeout _) => .retryable
  | _ => .fatal

/-- Time-outs and unavailability of the index may pass, and so may lost races in the store. -/
def classifySync : Classifier := fun f =>
  match f.indexError? with
  | some (.timeout _) => .retryable
  | some (.unavailable _) => .retryable
  | _ => if isSerializationConflict f then .retryable else .fatal

end CatalogSearch.Retry
