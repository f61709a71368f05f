import CatalogSearch.Proofs.Index.Resubmission
import CatalogSearch.Proofs.Job.Runs

/-!
# What the calls of a write tell

Where every refusal names its document, a write tells by its calls alone what became of each
document: its id is among those of the documents that some call wrote, or among those of the
refusals that are returned, and only once.
-/
namespace CatalogSearch.Index

open Job (Event paced unnoted)

/-- Something is true of all that a bulk write asks for. -/
structure Bulky (p : Effect → Prop) : Prop where
  bulk : ∀ documents, p (.index (.bulk documents))
  note : ∀ entry : Log.Entry, entry.target = Client.logTarget → p (.log entry)
  pause : ∀ span, p (.pause span)

namespace Bulky

variable {p : Effect → Prop}

theorem logAllRejected (bulky : Bulky p) (errors : List ItemError) :
    (Client.logAllRejected errors).Confined p := by
  induction errors with
  | nil => trivial
  | cons error rest ih =>
    exact Job.confined_bind (Job.confined_perform (bulky.note _ rfl)) fun _ => ih

theorem submit (bulky : Bulky p) (documents : List Document) (again : Bool) :
    (Client.submit documents again).Confined p := by
  refine Task.confined_bind (Task.confined_index (bulky.bulk documents)) fun outcomes => ?_
  dsimp only
  split
  · exact Task.confined_fail _
  · exact Task.confined_bind (Task.confined_always (bulky.logAllRejected _)) fun _ =>
      Task.confined_pure _

theorem upsertRounds (bulky : Bulky p) (client : Client) (summary : BulkSummary)
    (documents : List Document) (left : Nat) :
    (client.upsertRounds summary documents left).Confined p := by
  induction left generalizing summary documents with
  | zero =>
    unfold Client.upsertRounds
    split
    · exact Task.confined_pure _
    · exact Task.confined_bind (bulky.submit documents false) fun _ => Task.confined_pure _
  | succ left ih =>
    unfold Client.upsertRounds
    split
    · exact Task.confined_pure _
    · refine Task.confined_bind (bulky.submit documents true) fun round => ?_
      dsimp only
      split
      · exact Task.confined_pure _
      · refine Task.confined_bind (Task.confined_always ?_) fun _ => ?_
        · exact Job.confined_perform (bulky.note _ rfl)
        · refine Task.confined_bind (Task.confined_always ?_) fun _ => ih _ _
          exact Job.confined_perform (bulky.pause _)

/-- A bulk write asks for bulk requests and pauses, and notes what happens. -/
theorem upsertBatch (bulky : Bulky p) (client : Client) (documents : List Document) :
    (client.upsertBatch documents).Confined p :=
  bulky.upsertRounds client {} documents maxResubmissions

end Bulky

/-- One outcome for each document, and every refusal names its document. -/
def Named (documents : List Document) (outcomes : List ItemOutcome) : Prop :=
  outcomes.length = documents.length ∧
    ∀ s ∈ documents.zip outcomes, ∀ e, s.2 = .failed e → e.documentId = s.1.id

/-- The ids of the documents that an event wrote. -/
def taken : Event → List String
  | ⟨.index (.bulk documents), .ok outcomes⟩ =>
    ((documents.zip outcomes).filter fun s => s.2 = .indexed).map (·.1.id)
  | _ => []

theorem flatMap_unnoted (history : List Event) :
    (unnoted history).flatMap taken = history.flatMap taken := by
  induction history with
  | nil => rfl
  | cons e rest ih =>
    obtain ⟨effect, answer⟩ := e
    cases effect with
    | log entry => exact ih
    | _ => exact congrArg (taken _ ++ ·) ih

theorem flatMap_paced (delay : Nat → Span) (k : Nat) (blocks : List (List Event)) :
    (paced delay k blocks).flatMap taken = blocks.flatten.flatMap taken := by
  induction blocks generalizing k with
  | nil => rfl
  | cons block rest ih =>
    cases rest with
    | nil => simp [paced]
    | cons next rest =>
      rw [paced, List.flatMap_append, List.flatMap_cons, ih, List.flatten_cons (l := block),
        List.flatMap_append]
      rfl

theorem mem_paced {delay : Nat → Span} {k : Nat} {blocks : List (List Event)} {block : List Event}
    (mem : block ∈ blocks) {e : Event} (inside : e ∈ block) : e ∈ paced delay k blocks := by
  induction blocks generalizing k with
  | nil => cases mem
  | cons first rest ih =>
    cases rest with
    | nil =>
      rw [List.mem_singleton.1 mem] at inside
      exact inside
    | cons next rest =>
      rcases List.mem_cons.1 mem with rfl | mem
      · exact List.mem_append_left _ inside
      · exact List.mem_append_right _ (List.mem_cons_of_mem _ (ih mem))

namespace Answered

/-- Every refusal of a round names its document. -/
def IsNamed (round : Answered) : Prop :=
  ∀ s ∈ round, ∀ e, s.2 = .failed e → e.documentId = s.1.1.id

/-- The ids of the documents that a round wrote. -/
def takenIds (round : Answered) : List String :=
  (round.filter fun s => s.2 = .indexed).map (·.1.1.id)

theorem length_takenIds (round : Answered) : round.takenIds.length = round.taken := by
  rw [takenIds, List.length_map, taken, List.countP_eq_length_filter]

/-- A round tells of each of its documents, either by its id or by a refusal. -/
theorem perm_ids {round : Answered} (named : round.IsNamed) :
    (round.takenIds ++ round.refusals.map (·.documentId)).Perm (round.map (·.1.1.id)) := by
  induction round with
  | nil => exact .nil
  | cons s rest ih =>
    have later := ih fun t mem => named t (List.mem_cons_of_mem _ mem)
    obtain ⟨p, outcome⟩ := s
    cases outcome with
    | indexed => exact later.cons _
    | failed e =>
      have name : e.documentId = p.1.id := named _ List.mem_cons_self e rfl
      rw [List.map_cons, ← name]
      exact List.perm_middle.trans (later.cons e.documentId)

theorem taken_call (round : Answered) : Index.taken round.call.event = round.takenIds := by
  have pairs : (round.map (·.1.1)).zip (round.map (·.2)) = round.map fun s => (s.1.1, s.2) :=
    List.zip_map'
  change (((round.map (·.1.1)).zip (round.map (·.2))).filter fun s => s.2 = .indexed).map
    (·.1.id) = _
  rw [pairs, List.filter_map, List.map_map]
  rfl

theorem isNamed_of_named {round : Answered}
    (h : Named (round.map (·.1.1)) (round.map (·.2))) : round.IsNamed := by
  have pairs : (round.map (·.1.1)).zip (round.map (·.2)) = round.map fun s => (s.1.1, s.2) :=
    List.zip_map'
  intro s mem e failed
  refine h.2 (s.1.1, s.2) ?_ e failed
  rw [pairs]
  exact List.mem_map_of_mem mem

end Answered

/-- What is written in any round is settled. -/
theorem takenIds_settled (rounds : List Answered) :
    rounds.flatMap Answered.takenIds = (settled rounds).takenIds := by
  induction rounds with
  | nil => rfl
  | cons round rest ih =>
    cases rest with
    | nil => simp [settled]
    | cons next rest =>
      have kept : round.final.takenIds = round.takenIds := by
        rw [Answered.takenIds, Answered.final, List.filter_filter, Answered.takenIds]
        refine congrArg (List.map _) (List.filter_congr fun s _ => ?_)
        cases s.2 <;> simp [ItemOutcome.isTurnedAway]
      rw [List.flatMap_cons, ih, settled, Answered.takenIds, Answered.takenIds, Answered.takenIds,
        List.filter_append, List.map_append]
      exact congrArg (· ++ _) kept.symm

/-- A bulk request was answered with a refusal. -/
def Refused (history : List Event) (e : ItemError) : Prop :=
  ∃ documents outcomes, ⟨.index (.bulk documents), .ok outcomes⟩ ∈ history ∧
    .failed e ∈ outcomes

theorem Refused.mono {history history' : List Event} {e : ItemError} (h : Refused history e)
    (sub : history ⊆ history') : Refused history' e := by
  obtain ⟨documents, outcomes, mem, failed⟩ := h
  exact ⟨documents, outcomes, sub mem, failed⟩

/-- A write whose calls name every document tells what became of each. -/
theorem upsertBatch_returned {client : Client} {documents : List Document} {history : List Event}
    {total : BulkSummary} (ran : (client.upsertBatch documents).Returned history total)
    (named : ∀ documents outcomes,
      ⟨.index (.bulk documents), .ok outcomes⟩ ∈ history → Named documents outcomes) :
    total.succeeded = (history.flatMap taken).length ∧
      (history.flatMap taken ++ total.errors.map (·.documentId)).Perm (documents.map (·.id)) ∧
      ∀ e ∈ total.errors, Refused history e := by
  have placed : documents.zipIdx.map (·.1) = documents := List.zipIdx_map_fst 0 documents
  have ends :=
    upsertRounds_accounts client {} documents.zipIdx maxResubmissions (Nat.le_refl _) []
  rw [placed] at ends
  obtain ⟨rounds, tail, history, same, accounts⟩ := Job.Ends.ran ends ran
  obtain rfl := List.append_cancel_left same
  obtain ⟨rfl, -, -⟩ := accounts.ok total rfl
  have settles := accounts.settles
  have calls := accounts.paced
  rw [List.append_nil, List.map_map] at calls
  have called : ∀ round ∈ rounds, round.call.event ∈ history := fun round mem => by
    refine List.mem_of_mem_filter (?_ : _ ∈ unnoted _)
    rw [calls]
    exact mem_paced (List.mem_map_of_mem mem) (List.mem_singleton.2 rfl)
  have seen : history.flatMap taken = (settled rounds).takenIds := by
    rw [← flatMap_unnoted, calls, flatMap_paced, ← takenIds_settled, ← List.flatMap_def,
      List.flatMap_assoc]
    refine congrArg (List.flatMap · rounds) (funext fun round => ?_)
    exact (List.append_nil _).trans round.taken_call
  have told : (settled rounds).IsNamed := fun s mem => by
    obtain ⟨before, round, after, rfl, inside, -⟩ := settles.last s mem
    exact Answered.isNamed_of_named (named _ _ (called round (by simp))) s inside
  have ids : ((settled rounds).map (·.1.1.id)).Perm (documents.map (·.id)) := by
    have positions := (settles.once.map (·.1)).map Document.id
    rwa [placed, List.map_map, List.map_map] at positions
  rw [seen, settles.errors]
  refine ⟨settles.succeeded.trans (Answered.length_takenIds _).symm,
    (Answered.perm_ids told).trans ids, fun e mem => ?_⟩
  obtain ⟨s, settled, failed⟩ := List.mem_filterMap.1 mem
  obtain ⟨before, round, after, rfl, inside, -⟩ := settles.last s settled
  refine ⟨_, _, called round (by simp), List.mem_map.2 ⟨s, inside, ?_⟩⟩
  cases outcome : s.2 with
  | indexed => simp [outcome, ItemOutcome.error?] at failed
  | failed error => simpa [outcome, ItemOutcome.error?] using failed

end CatalogSearch.Index
