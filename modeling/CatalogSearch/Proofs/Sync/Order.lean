import CatalogSearch.Proofs.Job.Quiet
import CatalogSearch.Proofs.Job.Trace
import CatalogSearch.Sync

/-!
# The order of the calls of a full sync

Whatever the store and the index answer, a full sync writes nothing before the index is empty or
created again, drops or empties nothing once it has written, refreshes the index only after its last
page, and asks for nothing more after a page that is given up.
-/
namespace CatalogSearch.Sync

open Index (Client)
open Job (Event recording)

def isBulk : Effect → Bool
  | .index (.bulk _) => true
  | _ => false

/-- Does an effect drop, create or empty the index? -/
def resets : Effect → Bool
  | .index .drop => true
  | .index (.create _) => true
  | .index .deleteAll => true
  | _ => false

def reads (page perPage : Nat) : Effect → Bool
  | .store (.page number size) => number = page && size = perPage
  | _ => false

/-- How often a page was read. -/
def asked (page perPage : Nat) (history : List Event) : Nat :=
  history.countP fun e => reads page perPage e.1

/-- How a page was read. -/
theorem eq_of_reads {page perPage : Nat} {effect : Effect} (h : reads page perPage effect = true) :
    effect = .store (.page page perPage) := by
  cases effect with
  | store call => cases call <;> simp_all [reads]
  | index call => simp [reads] at h
  | pause span => simp [reads] at h
  | report event => simp [reads] at h
  | log entry => simp [reads] at h

/-- The index was created again or emptied. -/
def Emptied (recreateSchema : Bool) (history : List Event) : Prop :=
  if recreateSchema then Client.recreateSchema.Succeeded history
  else Client.deleteAllDocuments.Succeeded history

/-- The store was asked once for the number of its records, and answered. -/
def Counted (n : Nat) (history : List Event) : Prop :=
  ∀ answer, (⟨.store .countAll, answer⟩ : Event) ∈ history ↔ answer = .ok n

/-- All pages were written from one page up to before another. -/
def Paged (client : Client) (perPage first next : Nat) (history : List Event) : Prop :=
  ∀ page, first ≤ page → page < next → (syncPage client page perPage).Succeeded history

/-- All pages were written, from the first one that was asked for to the last. -/
def Complete (client : Client) (startPage perPage : Nat) (history : List Event) : Prop :=
  ∃ n, Counted n history ∧
    Paged client perPage (max startPage 1) (pageCount n perPage + 1) history

/-- What may come after some events. -/
structure MayFollow (client : Client) (startPage perPage : Nat) (recreateSchema : Bool)
    (before : List Event) (effect : Effect) : Prop where
  bulk : isBulk effect = true → Emptied recreateSchema before
  reset : resets effect = true → ∀ e ∈ before, isBulk e.1 = false
  refresh : effect = .index .refresh → Complete client startPage perPage before

/-- A page that failed is not tried again: the failure is not one that may pass, or there are no
retries left. -/
def GivenUp (options : SyncOptions) (page perPage : Nat) (before : List Event)
    (failure : Failure) : Prop :=
  options.classifier failure = .fatal ∨ options.maxRetries ≤ asked page perPage before

/-- The events of a full sync are in order. -/
structure InOrder (client : Client) (options : SyncOptions) (startPage perPage : Nat)
    (recreateSchema : Bool) (history : List Event) : Prop where
  /-- Each of them was allowed when it came. -/
  allowed : Job.Justified
    (fun before e => MayFollow client startPage perPage recreateSchema before e.1) history
  /-- No call comes after an attempt at a page that is the last one. -/
  last : ∀ before during after page failure, history = before ++ during ++ after →
    (syncPage client page perPage).attempt.Ran during (.error failure) →
    GivenUp options page perPage before failure → ∀ e ∈ after, e.1.isCall = false
  /-- There are no calls for pages of no records. -/
  idle : perPage = 0 → ∀ e ∈ history, e.1.isCall = false

variable {client : Client} {options : SyncOptions} {startPage perPage : Nat} {recreateSchema : Bool}
  {w during : List Event}

/-- What is no call may come at any time. -/
theorem allowed_of_not_isCall {effect : Effect} (h : effect.isCall = false) :
    MayFollow client startPage perPage recreateSchema w effect := by
  cases effect with
  | store call => simp [Effect.isCall] at h
  | index call => simp [Effect.isCall] at h
  | pause span => constructor <;> simp [isBulk, resets]
  | report event => constructor <;> simp [isBulk, resets]
  | log entry => constructor <;> simp [isBulk, resets]

/-- Notes at the end change nothing about the order. -/
theorem InOrder.note {e : Event} (h : InOrder client options startPage perPage recreateSchema w)
    (note : e.1.isCall = false) :
    InOrder client options startPage perPage recreateSchema (w ++ [e]) where
  allowed := h.allowed.concat (allowed_of_not_isCall note)
  last before during after page failure same ran givenUp := by
    rcases List.eq_nil_or_concat after with rfl | ⟨rest, x, rfl⟩
    · simp
    · rw [List.concat_eq_append, ← List.append_assoc] at same
      obtain ⟨rfl, hx⟩ := List.append_inj' same rfl
      obtain rfl : e = x := by simpa using hx
      intro e' he'
      rw [List.concat_eq_append, List.mem_append] at he'
      rcases he' with he' | he'
      · exact h.last before during rest page failure rfl ran givenUp e' he'
      · rw [List.mem_singleton.1 he']
        exact note
  idle zero := by
    intro e' he'
    rcases List.mem_append.1 he' with he' | he'
    · exact h.idle zero e' he'
    · rw [List.mem_singleton.1 he']
      exact note

def Writes (effect : Effect) : Prop := isBulk effect = true

theorem asks_logAllRejected {p : Effect → Prop} (errors : List ItemError) :
    (Client.logAllRejected errors).Asks p := by
  induction errors with
  | nil => trivial
  | cons error rest ih => exact Job.asks_bind Job.asks_log fun _ => ih

theorem asks_submit (documents : List Document) (again : Bool) :
    (Client.submit documents again).Asks Writes := by
  unfold Client.submit
  apply Task.asks_bind
  · exact Task.asks_index rfl
  · intro outcomes
    dsimp only
    split
    · exact Task.asks_bind (Task.asks_fail _) fun _ => Task.asks_bind
        (Task.asks_always (asks_logAllRejected _)) fun _ => Task.asks_pure _
    · exact Task.asks_bind (Task.asks_always (asks_logAllRejected _)) fun _ => Task.asks_pure _

theorem asks_upsertRounds (client : Client) (summary : Index.BulkSummary)
    (documents : List Document) (left : Nat) :
    (client.upsertRounds summary documents left).Asks Writes := by
  induction left generalizing summary documents with
  | zero =>
    unfold Client.upsertRounds
    split
    · exact Task.asks_pure _
    · exact Task.asks_bind (asks_submit _ _) fun _ => Task.asks_pure _
  | succ left ih =>
    unfold Client.upsertRounds
    split
    · exact Task.asks_pure _
    · apply Task.asks_bind (asks_submit _ _)
      intro round
      dsimp only
      split
      · exact Task.asks_pure _
      · exact Task.asks_bind (Task.asks_always Job.asks_log) fun _ =>
          Task.asks_bind (Task.asks_always Job.asks_pause) fun _ => ih _ _

/-- An attempt at a page reads it once and then only writes. -/
theorem syncPage_ran {page : Nat} {outcome : Except Failure Index.BulkSummary}
    (ran : (syncPage client page perPage).attempt.Ran during outcome) :
    ∃ answer tail, during = ⟨.store (.page page perPage), answer⟩ :: tail ∧
      ∀ e ∈ tail, e.1.isCall = true → isBulk e.1 = true := by
  obtain ⟨answer, tail, rfl, ran⟩ := ran
  refine ⟨answer, tail, rfl, ?_⟩
  cases answer with
  | error f =>
    obtain ⟨rfl, -⟩ := ran
    simp
  | ok records => exact ran.asks (asks_upsertRounds client {} _ _)

theorem reads_of_writes {page : Nat} {effect : Effect}
    (h : effect.isCall = true → isBulk effect = true) : reads page perPage effect = false := by
  cases hreads : reads page perPage effect with
  | false => rfl
  | true =>
    obtain rfl := eq_of_reads hreads
    exact nomatch h rfl

/-- An attempt at a page reads no page but at its start. -/
theorem first_of_reads {page page' : Nat} {outcome : Except Failure Index.BulkSummary}
    {before after : List Event} {e : Event}
    (ran : (syncPage client page perPage).attempt.Ran during outcome)
    (split : during = before ++ e :: after) (read : reads page' perPage e.1 = true) :
    before = [] ∧ page' = page := by
  obtain ⟨answer, tail, rfl, writes⟩ := syncPage_ran ran
  cases before with
  | nil =>
    obtain ⟨rfl, -⟩ := List.cons.inj split
    exact ⟨rfl, by simpa [reads, eq_comm] using read⟩
  | cons x before =>
    obtain ⟨-, rfl⟩ := List.cons.inj split
    rw [reads_of_writes (writes e (by simp))] at read
    cases read

theorem Emptied.append (h : Emptied recreateSchema w) (more : List Event) :
    Emptied recreateSchema (w ++ more) := by
  unfold Emptied at h ⊢
  split
  · rw [if_pos ‹_›] at h
    exact h.append more
  · rw [if_neg ‹_›] at h
    exact h.append more

/-- Once the index is empty, an attempt at a page asks for nothing that is not allowed. -/
theorem justified_attempt {page : Nat} {outcome : Except Failure Index.BulkSummary}
    (h : Job.Justified
      (fun before e => MayFollow client startPage perPage recreateSchema before e.1) w)
    (ready : Emptied recreateSchema w)
    (ran : (syncPage client page perPage).attempt.Ran during outcome) :
    Job.Justified (fun before e => MayFollow client startPage perPage recreateSchema before e.1)
      (w ++ during) := by
  obtain ⟨answer, tail, rfl, writes⟩ := syncPage_ran ran
  apply h.append
  intro before e after split
  have kinds : resets e.1 = false ∧ e.1 ≠ .index .refresh := by
    have he : e ∈ ⟨.store (.page page perPage), answer⟩ :: tail := by simp [split]
    rcases List.mem_cons.1 he with rfl | he
    · simp [resets]
    · have := writes e he
      cases heffect : e.1 with
      | index call => cases call <;> simp_all [Effect.isCall, isBulk, resets]
      | _ => simp_all [resets]
  constructor
  · intro _
    exact ready.append before
  · simp [kinds.1]
  · exact fun refresh => absurd refresh kinds.2

/-- The history of a full sync in which no page was given up: every attempt at a page has ended, and
in a way after which the run goes on. -/
structure Going (client : Client) (options : SyncOptions) (startPage perPage : Nat)
    (recreateSchema : Bool) (history : List Event) : Prop where
  allowed : Job.Justified
    (fun before e => MayFollow client startPage perPage recreateSchema before e.1) history
  settled : ∀ before e rest page, history = before ++ e :: rest → reads page perPage e.1 = true →
    ∃ during after outcome, e :: rest = during ++ after ∧
      (syncPage client page perPage).attempt.Ran during outcome ∧
      ∀ failure, outcome = .error failure → ¬ GivenUp options page perPage before failure

/-- No attempt that began in such a history is the last one at its page. -/
theorem Going.not_givenUp (h : Going client options startPage perPage recreateSchema w)
    {before rest tail more after : List Event} {e : Event} {page : Nat} {failure : Failure}
    (begun : w = before ++ e :: rest) (split : rest ++ more = tail ++ after)
    (ran : (syncPage client page perPage).attempt.Ran (e :: tail) (.error failure)) :
    ¬ GivenUp options page perPage before failure := by
  have read : reads page perPage e.1 = true := by
    obtain ⟨answer, tail, heq, -⟩ := syncPage_ran ran
    obtain ⟨rfl, -⟩ := List.cons.inj heq
    simp [reads]
  obtain ⟨during, after', outcome, hduring, ran', goes⟩ := h.settled before e rest page begun read
  have same : (e :: tail) ++ after = during ++ (after' ++ more) := by
    rw [List.cons_append, ← split, ← List.cons_append, hduring, List.append_assoc]
  obtain ⟨-, rfl⟩ := ran.unique ran' same
  exact goes failure rfl

theorem Going.inOrder (h : Going client options startPage perPage recreateSchema w)
    (some : 1 ≤ perPage) : InOrder client options startPage perPage recreateSchema w where
  allowed := h.allowed
  last before during after page failure split ran givenUp := by
    obtain ⟨answer, tail, rfl, -⟩ := syncPage_ran ran
    rw [List.append_assoc, List.cons_append] at split
    exact absurd givenUp (h.not_givenUp split (List.append_nil _) ran)
  idle zero := by omega

/-- What is no attempt at a page may come where it is allowed. -/
theorem Going.add {e : Event} (h : Going client options startPage perPage recreateSchema w)
    (allowed : MayFollow client startPage perPage recreateSchema w e.1)
    (unread : ∀ page, reads page perPage e.1 = false) :
    Going client options startPage perPage recreateSchema (w ++ [e]) where
  allowed := h.allowed.concat allowed
  settled before e' rest page split read := by
    rcases Job.append_eq_cases split with ⟨inside, begun, rfl⟩ | ⟨between, -, last⟩
    · obtain ⟨during, after, outcome, hduring, ran, goes⟩ :=
        h.settled before e' inside page begun read
      exact ⟨during, after ++ [e], outcome, by rw [← List.cons_append, hduring, List.append_assoc],
        ran, goes⟩
    · have : e' ∈ [e] := by simp [last]
      rw [List.mem_singleton.1 this, unread page] at read
      cases read

/-- So may an attempt at a page after which the run goes on. -/
theorem Going.attempt {page : Nat} {outcome : Except Failure Index.BulkSummary}
    (h : Going client options startPage perPage recreateSchema w) (ready : Emptied recreateSchema w)
    (ran : (syncPage client page perPage).attempt.Ran during outcome)
    (goes : ∀ failure, outcome = .error failure → ¬ GivenUp options page perPage w failure) :
    Going client options startPage perPage recreateSchema (w ++ during) where
  allowed := justified_attempt h.allowed ready ran
  settled before e rest page' split read := by
    rcases Job.append_eq_cases split with ⟨inside, begun, rfl⟩ | ⟨between, rfl, inside⟩
    · obtain ⟨during', after, outcome', hduring, ran', goes'⟩ :=
        h.settled before e inside page' begun read
      exact ⟨during', after ++ during, outcome',
        by rw [← List.cons_append, hduring, List.append_assoc], ran', goes'⟩
    · obtain ⟨rfl, rfl⟩ := first_of_reads ran inside read
      refine ⟨during, [], outcome, by simp [inside], ran, ?_⟩
      rwa [List.append_nil]

/-- After the last attempt at a page, the history is in order as it is. -/
theorem Going.inOrder_last {page : Nat} {outcome : Except Failure Index.BulkSummary}
    (h : Going client options startPage perPage recreateSchema w) (some : 1 ≤ perPage)
    (ready : Emptied recreateSchema w)
    (ran : (syncPage client page perPage).attempt.Ran during outcome) :
    InOrder client options startPage perPage recreateSchema (w ++ during) where
  allowed := justified_attempt h.allowed ready ran
  last before during' after page' failure split ran' givenUp := by
    obtain ⟨answer, tail, rfl, -⟩ := syncPage_ran ran'
    rw [List.append_assoc, List.cons_append] at split
    rcases Job.append_eq_cases split with ⟨inside, begun, rest⟩ | ⟨between, rfl, inside⟩
    · exact absurd givenUp (h.not_givenUp begun rest.symm ran')
    · have read : reads page' perPage (.store (.page page' perPage)) = true := by simp [reads]
      obtain ⟨rfl, rfl⟩ := first_of_reads ran inside read
      have same : during ++ [] = (⟨.store (.page page' perPage), answer⟩ :: tail) ++ after := by
        simpa using inside
      obtain ⟨rfl, -⟩ := ran.unique ran' same
      obtain rfl : after = [] := by simpa using same
      simp
  idle zero := by omega

end CatalogSearch.Sync
