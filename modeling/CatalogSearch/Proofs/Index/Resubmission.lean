import CatalogSearch.Proofs.Job.Quiet
import CatalogSearch.Proofs.Job.Recorded
import CatalogSearch.Proofs.Time.Seconds
import Mathlib.Data.List.Nodup

/-!
# What a bulk write makes of its documents

A write submits all its documents and then, call by call, those again that the call before turned
away. Whatever the calls are answered with, each document is accounted for once, by the outcome of
its last submission, unless a call fails or is answered with too few or too many outcomes. Equal
documents are told apart by their positions.
-/
namespace CatalogSearch.Index

open Job (Event paced recording unnoted)

def ItemOutcome.isTurnedAway : ItemOutcome → Bool
  | .indexed => false
  | .failed error => error.status = throttledStatus

def ItemOutcome.error? : ItemOutcome → Option ItemError
  | .indexed => none
  | .failed error => some error

/-- An outcome turns a document away for now if it is a failure of the status for throttling. -/
theorem ItemOutcome.isTurnedAway_iff {outcome : ItemOutcome} :
    outcome.isTurnedAway = true ↔ ∃ error, outcome = .failed error ∧ error.status = 429 := by
  cases outcome with
  | indexed => simp [isTurnedAway]
  | failed error =>
    simp only [failed.injEq, exists_eq_left']
    exact decide_eq_true_iff

/-- A document and its position in the input. -/
abbrev Placed : Type := Document × Nat

/-- The documents of one call with their outcomes. -/
abbrev Answered : Type := List (Placed × ItemOutcome)

/-- A bulk call: the documents submitted and the answer. -/
abbrev BulkCall : Type := List Document × Except Failure (List ItemOutcome)

def BulkCall.event (call : BulkCall) : Event := ⟨.index (.bulk call.1), call.2⟩

namespace Answered

def call (round : Answered) : BulkCall := (round.map (·.1.1), .ok (round.map (·.2)))

/-- The documents that are turned away, in their order. -/
def again (round : Answered) : List Placed :=
  (round.filter fun s => s.2.isTurnedAway).map (·.1)

def final (round : Answered) : Answered := round.filter fun s => !s.2.isTurnedAway

/-- The number of documents that were written. -/
def taken (round : Answered) : Nat := round.countP fun s => s.2 = .indexed

def refusals (round : Answered) : List ItemError := round.filterMap (·.2.error?)

theorem taken_append (round more : Answered) :
    taken (round ++ more) = taken round + taken more := List.countP_append

theorem refusals_append (round more : Answered) :
    refusals (round ++ more) = refusals round ++ refusals more := List.filterMap_append

/-- If nothing is turned away, everything is final. -/
theorem final_of_again {round : Answered} (none : round.again = []) : round.final = round := by
  refine List.filter_eq_self.2 fun s mem => ?_
  have kept := List.filter_eq_nil_iff.1 (List.map_eq_nil_iff.1 none) s mem
  simpa using kept

/-- Each document was either written or failed. -/
theorem taken_add_refusals (round : Answered) :
    round.taken + round.refusals.length = round.length := by
  induction round with
  | nil => rfl
  | cons s rest ih =>
    rw [taken, refusals] at ih ⊢
    obtain ⟨p, outcome⟩ := s
    cases outcome with
    | indexed =>
      simp [ItemOutcome.error?] at ih ⊢
      omega
    | failed error =>
      simp [ItemOutcome.error?] at ih ⊢
      omega

end Answered

/-- The outcomes of a last round are all final. -/
theorem tally_last (round : Answered) :
    tally false (round.map fun s => (s.1.1, s.2)) = ⟨[], round.taken, round.refusals⟩ := by
  induction round with
  | nil => rfl
  | cons s rest ih =>
    obtain ⟨p, outcome⟩ := s
    cases outcome <;> simp_all [tally, Answered.taken, Answered.refusals, ItemOutcome.error?]

/-- In any other round, documents may be turned away. -/
theorem tally_again (round : Answered) :
    tally true (round.map fun s => (s.1.1, s.2)) =
      ⟨round.again.map (·.1), round.final.taken, round.final.refusals⟩ := by
  induction round with
  | nil => rfl
  | cons s rest ih =>
    obtain ⟨p, outcome⟩ := s
    cases outcome with
    | indexed =>
      simp_all [tally, Answered.again, Answered.final, Answered.taken, Answered.refusals,
        ItemOutcome.error?, ItemOutcome.isTurnedAway]
    | failed error =>
      by_cases late : error.status = throttledStatus <;>
        simp_all [tally, Answered.again, Answered.final, Answered.taken, Answered.refusals,
          ItemOutcome.error?, ItemOutcome.isTurnedAway]

/-- Each call submits what is due: first some documents, then those that the call before turned
away. -/
def Chained : List Placed → List Answered → Prop
  | _, [] => True
  | due, round :: rest => round.map (·.1) = due ∧ Chained round.again rest

/-- What is due after some calls. -/
def dueAfter : List Placed → List Answered → List Placed
  | due, [] => due
  | _, round :: rest => dueAfter round.again rest

/-- What was not submitted again, with its outcome: all of the last call, and of the calls before it
what they did not turn away. -/
def settled : List Answered → Answered
  | [] => []
  | [last] => last
  | round :: next :: rest => round.final ++ settled (next :: rest)

theorem settled_cons {round : Answered} {rest : List Answered} (some : rest ≠ []) :
    settled (round :: rest) = round.final ++ settled rest := by
  cases rest with
  | nil => exact absurd rfl some
  | cons next rest => rfl

variable {due : List Placed} {rounds : List Answered}

/-- Every document is settled once. -/
theorem settled_perm (chained : Chained due rounds) (begun : rounds = [] → due = []) :
    ((settled rounds).map (·.1)).Perm due := by
  induction rounds generalizing due with
  | nil =>
    rw [begun rfl]
    exact .nil
  | cons round rest ih =>
    obtain ⟨rfl, later⟩ := chained
    cases rest with
    | nil => exact .refl _
    | cons next rest =>
      have split := (List.filter_append_perm (fun s => !s.2.isTurnedAway) round).map (·.1)
      simp only [List.map_append, Bool.not_not] at split
      rw [settled, List.map_append]
      exact ((ih later nofun).append_left _).trans split

/-- No call submits anything that is not due. -/
theorem Chained.mem_due (chained : Chained due rounds) {round : Answered} (made : round ∈ rounds)
    {p : Placed} (mem : p ∈ round.map (·.1)) : p ∈ due := by
  induction rounds generalizing due with
  | nil => cases made
  | cons first rest ih =>
    obtain ⟨rfl, later⟩ := chained
    rcases List.mem_cons.1 made with rfl | made
    · exact mem
    · have turned := ih later made
      obtain ⟨s, filtered, rfl⟩ := List.mem_map.1 turned
      exact List.mem_map_of_mem (List.mem_filter.1 filtered).1

theorem nodup_again {round : Answered} (distinct : (round.map (·.1)).Nodup) :
    round.again.Nodup :=
  distinct.sublist (List.filter_sublist.map _)

/-- A document that a call does not turn away is not submitted again. -/
theorem not_mem_again {round : Answered} (distinct : (round.map (·.1)).Nodup)
    {s : Placed × ItemOutcome} (mem : s ∈ round) (kept : s.2.isTurnedAway = false) :
    s.1 ∉ round.again := by
  intro turned
  obtain ⟨s', filtered, same⟩ := List.mem_map.1 turned
  obtain ⟨mem', away⟩ := List.mem_filter.1 filtered
  obtain rfl := List.inj_on_of_nodup_map distinct mem' mem same
  rw [kept] at away
  cases away

/-- The outcome by which a document is settled is that of its last submission. -/
theorem mem_settled (chained : Chained due rounds) (distinct : due.Nodup)
    {s : Placed × ItemOutcome} (mem : s ∈ settled rounds) :
    ∃ before round after, rounds = before ++ round :: after ∧ s ∈ round ∧
      ∀ later ∈ after, s.1 ∉ later.map (·.1) := by
  induction rounds generalizing due with
  | nil => cases mem
  | cons round rest ih =>
    obtain ⟨rfl, later⟩ := chained
    cases rest with
    | nil => exact ⟨[], round, [], rfl, mem, nofun⟩
    | cons next rest =>
      rw [settled, List.mem_append] at mem
      rcases mem with mem | mem
      · obtain ⟨inside, kept⟩ := List.mem_filter.1 mem
        refine ⟨[], round, next :: rest, rfl, inside, fun made hmade resubmitted => ?_⟩
        rw [Bool.not_eq_true'] at kept
        exact not_mem_again distinct inside kept (later.mem_due hmade resubmitted)
      · obtain ⟨before, found, after, split, inside, last⟩ := ih later (nodup_again distinct) mem
        exact ⟨round :: before, found, after, congrArg (round :: ·) split, inside, last⟩

/-- What is settled although it was turned away was turned away by the last call. -/
theorem turnedAway_of_mem_settled {s : Placed × ItemOutcome} (mem : s ∈ settled rounds)
    (away : s.2.isTurnedAway = true) :
    s.1 ∈ dueAfter due rounds ∧ ∃ last, rounds.getLast? = some last ∧ s ∈ last := by
  induction rounds generalizing due with
  | nil => cases mem
  | cons round rest ih =>
    cases rest with
    | nil => exact ⟨List.mem_map_of_mem (List.mem_filter.2 ⟨mem, away⟩), round, rfl, mem⟩
    | cons next rest =>
      rw [settled, List.mem_append] at mem
      rcases mem with mem | mem
      · simp [away, Answered.final] at mem
      · obtain ⟨left, last, isLast, inside⟩ := @ih round.again mem
        exact ⟨left, last, by rwa [List.getLast?_cons_cons], inside⟩

/-- An answer that ends a write with a failure: a failure of its own, or one for the wrong number of
outcomes. -/
def Breaks (submitted : Nat) : Except Failure (List ItemOutcome) → Failure → Prop
  | .error own, failure => failure = own
  | .ok outcomes, failure => outcomes.length ≠ submitted ∧
    failure = .malformed s!"bulk response has {outcomes.length} items for {submitted} documents"

def BulkSummary.settle (summary : BulkSummary) (done : Answered) : BulkSummary :=
  ⟨summary.succeeded + done.taken, summary.failed + done.refusals.length,
    summary.errors ++ done.refusals⟩

/-- What a write asks for and returns, from where some documents are due and so many resubmissions
are left: rounds that are answered for every document, and perhaps one more call. -/
structure Accounts (client : Client) (summary : BulkSummary) (due : List Placed) (left : Nat)
    (rounds : List Answered) (tail : List BulkCall) (history : List Event)
    (outcome : Except Failure BulkSummary) : Prop where
  chained : Chained due rounds
  paced : unnoted history = paced client.resubmissionDelay (maxResubmissions + 1 - left)
    ((rounds.map Answered.call ++ tail).map fun call => [call.event])
  few : rounds.length + tail.length ≤ left + 1
  asked : ∀ call ∈ rounds.map Answered.call ++ tail, call.1 ≠ []
  ok : ∀ total, outcome = .ok total →
    tail = [] ∧ (dueAfter due rounds = [] ∨ rounds.length = left + 1) ∧
      total = summary.settle (settled rounds)
  error : ∀ f, outcome = .error f → ∃ answer,
    tail = [((dueAfter due rounds).map (·.1), answer)] ∧
      Breaks (dueAfter due rounds).length answer f

variable {client : Client} {summary : BulkSummary} {left : Nat} {tail : List BulkCall}
  {history : List Event} {outcome : Except Failure BulkSummary}

/-- Where something is due, a call is made. -/
theorem Accounts.ne_nil (h : Accounts client summary due left rounds tail history outcome)
    (some : due ≠ []) : rounds.map Answered.call ++ tail ≠ [] := by
  intro none
  obtain ⟨rounds_nil, rfl⟩ := List.append_eq_nil_iff.1 none
  obtain rfl := List.map_eq_nil_iff.1 rounds_nil
  cases outcome with
  | ok total =>
    rcases (h.ok total rfl).2.1 with nothing | spent
    · exact some nothing
    · cases spent
  | error f =>
    obtain ⟨answer, tail, -⟩ := h.error f rfl
    cases tail

/-- Nothing is due, and nothing is asked for. -/
theorem Accounts.none : Accounts client summary [] left [] [] [] (.ok summary) where
  chained := trivial
  paced := rfl
  few := Nat.zero_le _
  asked := nofun
  ok total same := by
    obtain rfl := Except.ok.inj same
    exact ⟨rfl, .inl rfl, by simp [BulkSummary.settle, settled, Answered.taken, Answered.refusals]⟩
  error f same := by cases same

/-- A call with which a write fails. -/
theorem Accounts.broken {answer : Except Failure (List ItemOutcome)} {f : Failure}
    (some : due ≠ []) (breaks : Breaks due.length answer f) :
    Accounts client summary due left [] [(due.map (·.1), answer)]
      [⟨.index (.bulk (due.map (·.1))), answer⟩] (.error f) where
  chained := trivial
  paced := rfl
  few := Nat.succ_le_succ (Nat.zero_le left)
  asked call mem := by
    rw [List.mem_singleton.1 mem]
    simpa using some
  ok total same := by cases same
  error g same := by
    obtain rfl := Except.error.inj same
    exact ⟨answer, rfl, breaks⟩

/-- A call with which a write succeeds. -/
theorem Accounts.last {round : Answered} {notes : List Event} (some : round ≠ [])
    (silent : unnoted notes = []) (ends : round.again = [] ∨ left = 0) :
    Accounts client summary (round.map (·.1)) left [round] [] (round.call.event :: notes)
      (.ok (summary.settle round)) where
  chained := ⟨rfl, trivial⟩
  paced := by
    rw [BulkCall.event, Job.unnoted_index, silent]
    rfl
  few := Nat.succ_le_succ (Nat.zero_le left)
  asked call mem := by
    rw [List.mem_singleton.1 mem]
    simpa [Answered.call] using some
  ok total same := by
    obtain rfl := Except.ok.inj same
    exact ⟨rfl, ends.imp_right (congrArg (· + 1) ·.symm), rfl⟩
  error g same := by cases same

/-- A call after which documents are submitted again. -/
theorem Accounts.cons {round : Answered} {notes : List Event}
    (h : Accounts client (summary.settle round.final) round.again left rounds tail history outcome)
    (silent : unnoted notes = []) (some : round.again ≠ []) (early : left < maxResubmissions) :
    Accounts client summary (round.map (·.1)) (left + 1) (round :: rounds) tail
      (round.call.event :: notes ++
        ⟨.pause (client.resubmissionDelay (maxResubmissions - left)), ()⟩ :: history) outcome where
  chained := ⟨rfl, h.chained⟩
  paced := by
    have calls : (rounds.map Answered.call ++ tail).map (fun call => [call.event]) ≠ [] := by
      simpa using h.ne_nil some
    have asked : unnoted (round.call.event :: notes ++
        ⟨.pause (client.resubmissionDelay (maxResubmissions - left)), ()⟩ :: history) =
        [round.call.event] ++
          ⟨.pause (client.resubmissionDelay (maxResubmissions - left)), ()⟩ :: unnoted history := by
      rw [List.cons_append, BulkCall.event, Job.unnoted_index, Job.unnoted_append, silent,
        Job.unnoted_pause]
      rfl
    have here : maxResubmissions + 1 - (left + 1) = maxResubmissions - left :=
      Nat.add_sub_add_right ..
    have next : maxResubmissions + 1 - left = maxResubmissions - left + 1 := by omega
    rw [asked, here, h.paced, next]
    exact (Job.paced_cons calls).symm
  few := by
    have few := h.few
    rw [List.length_cons]
    omega
  asked call mem := by
    rcases List.mem_cons.1 mem with rfl | mem
    · rintro none
      obtain rfl : round = [] := List.map_eq_nil_iff.1 none
      exact some rfl
    · exact h.asked call mem
  ok total same := by
    obtain ⟨rfl, ends, rfl⟩ := h.ok total same
    have later : rounds ≠ [] := by simpa using h.ne_nil some
    refine ⟨rfl, ends.imp_right (congrArg (· + 1)), ?_⟩
    rw [settled_cons later]
    simp [BulkSummary.settle, Answered.taken_append, Answered.refusals_append, Nat.add_assoc]
  error := h.error

theorem logAllRejected_unnoted (errors : List ItemError) (w : List Event) :
    (Client.logAllRejected errors).Ends recording w fun _ w' =>
      ∃ notes, w' = w ++ notes ∧ unnoted notes = [] := by
  induction errors generalizing w with
  | nil => exact ⟨[], (List.append_nil w).symm, rfl⟩
  | cons error rest ih =>
    rintro answer _ rfl
    refine (ih _).mono ?_
    rintro _ _ ⟨notes, rfl, silent⟩
    exact ⟨_, List.append_assoc .., silent⟩

/-- One call: a round of outcomes, one for each document, or an answer that ends the write. -/
theorem submit_answered (due : List Placed) (again : Bool) (w : List Event) :
    (Client.submit (due.map (·.1)) again).Ends recording w
      (fun result w' => ∃ (round : Answered) (notes : List Event), round.map (·.1) = due ∧
        unnoted notes = [] ∧ w' = w ++ round.call.event :: notes ∧
        result = tally again (round.map fun s => (s.1.1, s.2)))
      fun f w' => ∃ answer, Breaks due.length answer f ∧
        w' = w ++ [⟨.index (.bulk (due.map (·.1))), answer⟩] := by
  have called : (Task.index (.bulk (due.map (·.1)))).Ends recording w
      (fun outcomes w' => w' = w ++ [⟨.index (.bulk (due.map (·.1))), .ok outcomes⟩])
      fun f w' => w' = w ++ [⟨.index (.bulk (due.map (·.1))), .error f⟩] := by
    rintro answer _ rfl
    cases answer <;> rfl
  have submitted : (due.map (·.1)).length = due.length := List.length_map _
  unfold Client.submit
  apply called.bind
  · rintro outcomes _ rfl
    rw [submitted]
    split
    · next other => exact ⟨.ok outcomes, ⟨other, rfl⟩, rfl⟩
    · next fits =>
      have same : outcomes.length = due.length := Decidable.not_not.1 fits
      have documents : (due.zip outcomes).map (·.1) = due :=
        List.map_fst_zip (Nat.le_of_eq same.symm)
      have answers : (due.zip outcomes).map (·.2) = outcomes :=
        List.map_snd_zip (Nat.le_of_eq same)
      have pairs : (due.map (·.1)).zip outcomes = (due.zip outcomes).map fun s => (s.1.1, s.2) :=
        List.zip_map_left
      have placed := congrArg (List.map Prod.fst) documents
      rw [List.map_map] at placed
      have call : Answered.call (due.zip outcomes) = (due.map (·.1), .ok outcomes) :=
        Prod.ext placed (congrArg Except.ok answers)
      refine (logAllRejected_unnoted _ _).always_bind ?_
      rintro _ _ ⟨notes, rfl, silent⟩
      refine ⟨due.zip outcomes, notes, documents, silent, ?_, congrArg _ pairs⟩
      rw [call, List.append_assoc]
      rfl
  · rintro f _ rfl
    exact ⟨.error f, rfl, rfl⟩

/-- Whatever the calls are answered with, a write accounts for what is due. -/
theorem upsertRounds_accounts (client : Client) (summary : BulkSummary) (due : List Placed)
    (left : Nat) (early : left ≤ maxResubmissions) (w : List Event) :
    (client.upsertRounds summary (due.map (·.1)) left).Ends recording w
      (fun total w' => ∃ rounds tail history, w' = w ++ history ∧
        Accounts client summary due left rounds tail history (.ok total))
      fun f w' => ∃ rounds tail history, w' = w ++ history ∧
        Accounts client summary due left rounds tail history (.error f) := by
  induction left generalizing summary due w with
  | zero =>
    unfold Client.upsertRounds
    split
    · next none =>
      obtain rfl : due = [] := by simpa using none
      exact ⟨[], [], [], (List.append_nil w).symm, .none⟩
    · next some =>
      have some : due ≠ [] := by simpa using some
      apply (submit_answered due false w).bind
      · rintro result _ ⟨round, notes, rfl, silent, rfl, rfl⟩
        rw [tally_last]
        exact ⟨[round], [], _, rfl, .last (by simpa using some) silent (.inr rfl)⟩
      · rintro f _ ⟨answer, breaks, rfl⟩
        exact ⟨[], _, _, rfl, .broken some breaks⟩
  | succ left ih =>
    unfold Client.upsertRounds
    split
    · next none =>
      obtain rfl : due = [] := by simpa using none
      exact ⟨[], [], [], (List.append_nil w).symm, .none⟩
    · next some =>
      have some : due ≠ [] := by simpa using some
      apply (submit_answered due true w).bind
      · rintro result _ ⟨round, notes, rfl, silent, rfl, rfl⟩
        rw [tally_again]
        dsimp only
        split
        · next none =>
          have none : round.again = [] := by simpa using none
          rw [Answered.final_of_again none]
          exact ⟨[round], [], _, rfl, .last (by simpa using some) silent (.inl none)⟩
        · next some =>
          have some : round.again ≠ [] := by simpa using some
          rintro _ _ rfl _ _ rfl
          have longer (note : Event) (pause : Event) (history : List Event) :
              w ++ round.call.event :: notes ++ [note] ++ [pause] ++ history =
                w ++ (round.call.event :: (notes ++ [note]) ++ pause :: history) := by
            simp only [List.append_assoc, List.cons_append, List.nil_append]
          refine (ih _ round.again (by omega) _).mono ?_ ?_
          · rintro total _ ⟨rounds, tail, history, rfl, later⟩
            exact ⟨_, _, _, longer .., later.cons (by simp [silent]) some early⟩
          · rintro f _ ⟨rounds, tail, history, rfl, later⟩
            exact ⟨_, _, _, longer .., later.cons (by simp [silent]) some early⟩
      · rintro f _ ⟨answer, breaks, rfl⟩
        exact ⟨[], _, _, rfl, .broken some breaks⟩

/-- What a write returns that comes to its end: every position of the input is settled once, by the
outcome of its last submission. -/
structure Settles (documents : List Document) (rounds : List Answered) (total : BulkSummary) :
    Prop where
  finished : dueAfter documents.zipIdx rounds = [] ∨ rounds.length = 4
  once : ((settled rounds).map (·.1)).Perm documents.zipIdx
  last : ∀ s ∈ settled rounds, ∃ before round after, rounds = before ++ round :: after ∧
    s ∈ round ∧ ∀ later ∈ after, s.1 ∉ later.map (·.1)
  succeeded : total.succeeded = (settled rounds).taken
  errors : total.errors = (settled rounds).refusals
  failed : total.failed = total.errors.length
  total : total.succeeded + total.failed = documents.length
  /-- Only the fourth call can leave a document turned away. -/
  late : ∀ s ∈ settled rounds, s.2.isTurnedAway = true →
    ∃ fourth, rounds[3]? = some fourth ∧ s ∈ fourth

/-- What a write of some documents asks for and returns. -/
structure Accounted (client : Client) (documents : List Document) (rounds : List Answered)
    (tail : List BulkCall) (history : List Event) (outcome : Except Failure BulkSummary) :
    Prop where
  /-- The first call submits all documents, each later one those that the call before it turned
  away. -/
  chained : Chained documents.zipIdx rounds
  turnedAway : ∀ outcome : ItemOutcome, outcome.isTurnedAway = true ↔
    ∃ error, outcome = .failed error ∧ error.status = 429
  /-- There is one pause between each two calls, and nothing else but notes. -/
  paced : unnoted history = paced client.resubmissionDelay 1
    ((rounds.map Answered.call ++ tail).map fun call => [call.event])
  delays : ∀ k, (client.resubmissionDelay k).nanos =
    min (client.bulkBackoff.nanos * 2 ^ (k - 1)) (2 ^ 64 * 10 ^ 9 - 1)
  few : rounds.length + tail.length ≤ 4
  asked : ∀ call ∈ rounds.map Answered.call ++ tail, call.1 ≠ []
  none : documents = [] → rounds = [] ∧ tail = []
  ok : ∀ total, outcome = .ok total → tail = [] ∧ Settles documents rounds total
  /-- A call with another answer is the last one, and submits what is due. -/
  error : ∀ f, outcome = .error f → ∃ answer,
    tail = [((dueAfter documents.zipIdx rounds).map (·.1), answer)] ∧
      Breaks (dueAfter documents.zipIdx rounds).length answer f

theorem Accounts.settles {documents : List Document} {total : BulkSummary}
    (h : Accounts client {} documents.zipIdx maxResubmissions rounds tail history (.ok total)) :
    Settles documents rounds total := by
  obtain ⟨rfl, ends, rfl⟩ := h.ok total rfl
  have begun (none : rounds = []) : documents.zipIdx = [] := by
    subst none
    exact ends.resolve_right nofun
  have once := settled_perm h.chained begun
  have distinct : documents.zipIdx.Nodup := by
    apply List.Nodup.of_map Prod.snd
    rw [List.zipIdx_map_snd]
    exact List.nodup_range'
  refine ⟨ends, once, fun s mem => mem_settled h.chained distinct mem, ?_, ?_, ?_, ?_, ?_⟩
  · simp [BulkSummary.settle]
  · simp [BulkSummary.settle]
  · simp [BulkSummary.settle]
  · have count := once.length_eq
    have split := (settled rounds).taken_add_refusals
    rw [List.length_map, List.length_zipIdx] at count
    simp only [BulkSummary.settle]
    omega
  · intro s mem away
    obtain ⟨due, last, isLast, inside⟩ :=
      @turnedAway_of_mem_settled documents.zipIdx rounds s mem away
    have four : rounds.length = 4 := ends.resolve_left fun none => by simp [none] at due
    refine ⟨last, ?_, inside⟩
    rw [List.getLast?_eq_getElem?, four] at isLast
    exact isLast

/-- Without documents, there are no calls. -/
theorem Accounts.eq_nil (h : Accounts client summary [] left rounds tail history outcome) :
    rounds = [] ∧ tail = [] := by
  have first (round : Answered) (rest : List Answered) (same : rounds = round :: rest) : False := by
    subst same
    have empty : round = [] := List.map_eq_nil_iff.1 h.chained.1
    exact h.asked round.call (by simp) (by simp [empty, Answered.call])
  cases rounds with
  | cons round rest => exact (first round rest rfl).elim
  | nil =>
    refine ⟨rfl, ?_⟩
    cases outcome with
    | ok total => exact (h.ok total rfl).1
    | error f =>
      obtain ⟨answer, rfl, -⟩ := h.error f rfl
      exact absurd rfl (h.asked _ List.mem_cons_self)

/-- A write that begins with its documents accounts for them. -/
theorem Accounts.accounted {documents : List Document}
    (h : Accounts client {} documents.zipIdx maxResubmissions rounds tail history outcome) :
    Accounted client documents rounds tail history outcome where
  chained := h.chained
  turnedAway _ := ItemOutcome.isTurnedAway_iff
  paced := h.paced
  delays _ := client.bulkBackoff.nanos_scale _
  few := h.few
  asked := h.asked
  none empty := by
    subst empty
    exact h.eq_nil
  ok total same := by
    subst same
    exact ⟨(h.ok total rfl).1, h.settles⟩
  error := h.error

/-- Whatever its calls are answered with, a write accounts for every document once, and calls at
most four times. -/
theorem upsertBatch_accounted {σ : Type} (handler : Job.Handler σ) (s : σ) (client : Client)
    (documents : List Document) :
    ∃ rounds tail, Accounted client documents rounds tail
      ((client.upsertBatch documents).attempt.trace handler s)
      ((client.upsertBatch documents).attempt.run handler s).1 := by
  have placed : documents.zipIdx.map (·.1) = documents := List.zipIdx_map_fst 0 documents
  have rounds :=
    upsertRounds_accounts client {} documents.zipIdx maxResubmissions (Nat.le_refl _) []
  rw [placed] at rounds
  have ends : (client.upsertBatch documents).attempt.Ends recording [] fun outcome w' =>
      ∃ rounds tail, Accounted client documents rounds tail w' outcome := by
    refine rounds.attempt ?_ ?_
    · rintro total _ ⟨rounds, tail, history, rfl, accounts⟩
      exact ⟨rounds, tail, accounts.accounted⟩
    · rintro f _ ⟨rounds, tail, history, rfl, accounts⟩
      exact ⟨rounds, tail, accounts.accounted⟩
  exact Job.Ends.trace handler (s := s) ends

end CatalogSearch.Index
