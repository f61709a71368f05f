import CatalogSearch.Proofs.Cluster.Exchanges
import CatalogSearch.Proofs.Rehearsal.Connected
import Mathlib

/-!
# What the answers to a bulk write are taken for

A write sends its documents and, round by round, those again that are turned away for now. An answer
speaks for a document by the item at the document's own position. The main statement follows a
write through all of its rounds: an answer that leaves a document without an item ends it, and
otherwise a document counts as written exactly if its own item accepts it.
-/
namespace CatalogSearch.Cluster

open Index (maxResubmissions throttledStatus tally)

def itemsOf (body : Json) : List Json := ((body.get "items").arr?).getD []

/-- The status that an item reports, as far as sixteen bits hold it. -/
def statusOf (item : Json) : Nat :=
  (((item.get "index").get "status").nat?.getD 0) % twoTo 16

/-- Does an item say that its document was written? -/
def accepts (item : Json) : Bool :=
  ((item.get "index").get? "error").isNone && isSuccess (statusOf item)

/-- The item has no error and reports a status of success. -/
structure Confirms (item : Json) : Prop where
  clean : (item.get "index").get? "error" = none
  success : ∃ status, ((item.get "index").get "status").nat? = some status ∧
    200 ≤ status ∧ status < 300

/-- An item whose status fits into sixteen bits is read as it stands. -/
theorem accepts_iff_confirms {item : Json}
    (narrow : ∀ status, ((item.get "index").get "status").nat? = some status → status < 65536) :
    accepts item = true ↔ Confirms item := by
  rw [accepts, Bool.and_eq_true, Option.isNone_iff_eq_none, statusOf, isSuccess, Bool.and_eq_true,
    decide_eq_true_iff, decide_eq_true_iff]
  constructor
  · rintro ⟨clean, low, high⟩
    refine ⟨clean, ?_⟩
    cases read : ((item.get "index").get "status").nat? with
    | none => simp [read] at low
    | some status =>
      have small : status % twoTo 16 = status := Nat.mod_eq_of_lt (narrow status read)
      rw [read, Option.getD_some, small] at low high
      exact ⟨status, rfl, low, high⟩
  · rintro ⟨clean, status, read, low, high⟩
    have small : status % twoTo 16 = status := Nat.mod_eq_of_lt (narrow status read)
    rw [read, Option.getD_some, small]
    exact ⟨clean, low, high⟩

theorem itemOutcome_of_accepts {item : Json} (accepted : accepts item = true) (d : Document) :
    Backend.itemOutcome d item = .indexed := by
  rw [accepts, statusOf] at accepted
  rw [Backend.itemOutcome]
  exact if_pos accepted

theorem itemOutcome_of_not_accepts {item : Json} (refused : accepts item = false) (d : Document) :
    ∃ error, Backend.itemOutcome d item = .failed error ∧ error.status = statusOf item := by
  rw [accepts, statusOf, ← Bool.not_eq_true] at refused
  rw [Backend.itemOutcome]
  exact ⟨_, if_neg refused, rfl⟩

/-- The documents of one request and the items of its answer. -/
structure BulkRound where
  documents : List Document
  items : List Json

namespace BulkRound

def ofAnswer (documents : List Document) (body : Json) : BulkRound := ⟨documents, itemsOf body⟩

/-- Each document with the item at its own position. -/
def pairs (r : BulkRound) : List (Document × Json) := r.documents.zip r.items

/-- Every document has an item. -/
def IsComplete (r : BulkRound) : Prop := r.documents.length ≤ r.items.length

/-- The number of documents that are taken for written. -/
def accepted (r : BulkRound) : Nat := r.pairs.countP fun p => accepts p.2

/-- The documents that are turned away for now. -/
def postponed (r : BulkRound) : List Document :=
  (r.pairs.filter fun p => statusOf p.2 = throttledStatus).map (·.1)

end BulkRound

/-- How outcomes read from items are sorted. -/
theorem tally_items (again : Bool) (pairs : List (Document × Json)) :
    let round := tally again (pairs.map fun p => (p.1, Backend.itemOutcome p.1 p.2))
    round.succeeded = pairs.countP (fun p => accepts p.2) ∧
      round.throttled =
        (pairs.filter fun p => again && decide (statusOf p.2 = throttledStatus)).map (·.1) ∧
      round.succeeded + round.throttled.length + round.errors.length = pairs.length := by
  induction pairs with
  | nil => exact ⟨rfl, rfl, rfl⟩
  | cons p rest ih =>
    obtain ⟨d, item⟩ := p
    dsimp only at ih ⊢
    obtain ⟨succeeded, throttled, total⟩ := ih
    cases accepted : accepts item with
    | true =>
      have calm : statusOf item ≠ throttledStatus := by
        intro late
        rw [accepts, late] at accepted
        simp [isSuccess, throttledStatus] at accepted
      simp only [List.map_cons, tally, itemOutcome_of_accepts accepted]
      refine ⟨by simp [succeeded, accepted], by simp [throttled, calm], ?_⟩
      rw [List.length_cons]
      omega
    | false =>
      obtain ⟨error, outcome, status⟩ := itemOutcome_of_not_accepts accepted d
      simp only [List.map_cons, tally, outcome, status]
      split
      · rename_i late
        refine ⟨by simp [succeeded, accepted], by simp_all, ?_⟩
        simp only [List.length_cons]
        omega
      · rename_i final
        refine ⟨by simp [succeeded, accepted], by simp_all, ?_⟩
        simp only [List.length_cons]
        omega

/-- A round is sorted by the items of its answer. -/
structure Reads (again : Bool) (r : BulkRound) (round : Index.Round) : Prop where
  complete : r.IsComplete
  succeeded : round.succeeded = r.accepted
  throttled : round.throttled = if again then r.postponed else []
  total : round.succeeded + round.throttled.length + round.errors.length = r.documents.length

theorem reads_tally {r : BulkRound} (complete : r.IsComplete) (again : Bool) :
    Reads again r (tally again (r.pairs.map fun p => (p.1, Backend.itemOutcome p.1 p.2))) := by
  obtain ⟨succeeded, throttled, total⟩ := tally_items again r.pairs
  have length : r.pairs.length = r.documents.length := by
    rw [BulkRound.pairs, List.length_zip]
    exact Nat.min_eq_left complete
  refine ⟨complete, succeeded, ?_, total.trans length⟩
  rw [throttled]
  cases again with
  | true => simp [BulkRound.postponed]
  | false => simp

namespace Backend

variable {b : Backend} {link : Link} {documents : List Document} {reply : Reply} {body : Json}

def bulkRequest (b : Backend) (documents : List Document) (clock : Int) : Request :=
  b.request .post "/_bulk" [] (some (.lines, b.bulkBody documents)) clock

/-- What is said of an answer that does not have an item for every document. -/
def shortage (documents : List Document) (body : Json) : String :=
  match (body.get "items").arr? with
  | none => "bulk response has no items"
  | some items => s!"bulk response has {items.length} items for {documents.length} documents"

theorem run_bulk (filled : documents ≠ [])
    (sendable : Exchange.unsendable? (b.bulkRequest documents link.clock) = none)
    (brings : (link.replies.headD link.otherwise).Brings body) :
    (b.answer (.bulk documents)).run.run link =
      ((readBulk documents body).elim (.error (.malformed "bulk response has no items")) .ok,
        link.exchanged [b.bulkRequest documents link.clock]) := by
  have asked : (b.send .post "/_bulk" [] (some (.lines, b.bulkBody documents)) >>= believed).run.run
      link = (received (b.bulkRequest documents link.clock) (link.replies.headD link.otherwise),
        link.exchanged [b.bulkRequest documents link.clock]) := run_believed_send sendable
  rw [received_of_brings (by simp [bulkRequest, request]) brings] at asked
  have nonempty : documents.isEmpty = false := by simpa using filled
  unfold answer bulk
  dsimp only
  rw [nonempty, if_neg Bool.false_ne_true, ← bind_assoc, Exchange.run_bind, asked]
  dsimp only
  cases readBulk documents body <;> rfl

theorem zip_itemOutcome (documents : List Document) (items : List Json) :
    (documents.zip ((items.zip documents).map fun p => itemOutcome p.2 p.1)) =
      (documents.zip items).map fun p => (p.1, itemOutcome p.1 p.2) := by
  induction documents generalizing items with
  | nil => rfl
  | cons d rest ih =>
    cases items with
    | nil => rfl
    | cons item items => exact congrArg (_ :: ·) (ih items)

/-- A request submits its documents and reads the items of the answer, of which there must be
enough; more than enough are not noticed. -/
theorem submit_ends (filled : documents ≠ [])
    (sendable : Exchange.unsendable? (b.bulkRequest documents link.clock) = none)
    (brings : (link.replies.headD link.otherwise).Brings body) (again : Bool) :
    (Index.Client.submit documents again).Ends (Rehearsal.onCluster b) link
      (fun round link' => Reads again (.ofAnswer documents body) round ∧
        link' = link.exchanged [b.bulkRequest documents link.clock])
      (fun f link' => ¬ (BulkRound.ofAnswer documents body).IsComplete ∧
        f = .malformed (shortage documents body) ∧
        link' = link.exchanged [b.bulkRequest documents link.clock]) := by
  have run := run_bulk filled sendable brings
  unfold Index.Client.submit
  refine (Rehearsal.ends_exchange _).bind ?_ ?_
  · intro outcomes link' answered
    rw [run, Prod.mk.injEq] at answered
    obtain ⟨read, rfl⟩ := answered
    rw [readBulk] at read
    cases array : (body.get "items").arr? with
    | none => simp [array] at read
    | some items =>
      have itemsEq : itemsOf body = items := by rw [itemsOf, array]; rfl
      have outcomesEq : outcomes = (items.zip documents).map fun p => itemOutcome p.2 p.1 := by
        simpa [array] using read.symm
      have length : outcomes.length = min items.length documents.length := by
        rw [outcomesEq, List.length_map, List.length_zip]
      split
      · rename_i differ
        have few : items.length < documents.length := by omega
        have count : outcomes.length = items.length := by omega
        refine ⟨?_, ?_, rfl⟩
        · rw [BulkRound.IsComplete, BulkRound.ofAnswer, itemsEq]
          exact Nat.not_le.2 few
        · rw [shortage, array, count]
      · rename_i same
        have zipped : documents.zip outcomes = (BulkRound.ofAnswer documents body).pairs.map
            fun p => (p.1, itemOutcome p.1 p.2) := by
          rw [outcomesEq, BulkRound.pairs, BulkRound.ofAnswer, itemsEq]
          exact zip_itemOutcome documents items
        rw [zipped]
        refine Task.ends_bind.2 (Task.ends_always.2 ?_)
        refine ((Rehearsal.idle_onCluster (· = _)).logAllRejected_ends _ rfl).mono ?_
        rintro _ link' rfl
        have enough : documents.length ≤ items.length := by omega
        refine ⟨reads_tally ?_ again, rfl⟩
        rw [BulkRound.IsComplete, BulkRound.ofAnswer, itemsEq]
        exact enough
  · intro f link' failed
    rw [run, Prod.mk.injEq] at failed
    obtain ⟨unread, rfl⟩ := failed
    rw [readBulk] at unread
    cases array : (body.get "items").arr? with
    | none =>
      refine ⟨?_, ?_, rfl⟩
      · rw [BulkRound.IsComplete, BulkRound.ofAnswer, itemsOf, array]
        simpa using filled
      · rw [shortage, array]
        simpa [array] using unread.symm
    | some items => simp [array] at unread

/-- The rounds of a write whose requests are answered with some values, first to last: each submits
the documents that the one before it postpones. -/
def rounds : List Document → List Json → List BulkRound
  | _, [] => []
  | documents, body :: later =>
    .ofAnswer documents body :: rounds (BulkRound.ofAnswer documents body).postponed later

/-- The documents that are left to be submitted after some answers. -/
def pending (documents : List Document) (bodies : List Json) : List Document :=
  bodies.foldl (fun left body => (BulkRound.ofAnswer left body).postponed) documents

/-- All that a write reads which may submit documents `left` more times: every answer but the last
has an item for each document and leaves some to be submitted again. -/
structure Course (left : Nat) (documents : List Document) (bodies : List Json) (last : Json) :
    Prop where
  going : ∀ round ∈ rounds documents bodies, round.IsComplete ∧ round.postponed ≠ []
  allowed : bodies.length ≤ left
  ending : (BulkRound.ofAnswer (pending documents bodies) last).IsComplete →
    bodies.length = left ∨ (BulkRound.ofAnswer (pending documents bodies) last).postponed = []

theorem Course.tail {left : Nat} {documents : List Document} {body last : Json}
    {bodies : List Json} (course : Course (left + 1) documents (body :: bodies) last) :
    Course left (BulkRound.ofAnswer documents body).postponed bodies last where
  going round mem := course.going round (List.mem_cons_of_mem _ mem)
  allowed := Nat.le_of_succ_le_succ course.allowed
  ending complete := (course.ending complete).imp_left Nat.succ.inj

/-- Whatever the answers are, there is a course that begins them. -/
theorem exists_course (left : Nat) (documents : List Document) {answers : List Json}
    (enough : left < answers.length) :
    ∃ bodies last rest, answers = bodies ++ last :: rest ∧ Course left documents bodies last := by
  induction left generalizing documents answers with
  | zero =>
    obtain ⟨body, rest, rfl⟩ := List.exists_cons_of_length_pos enough
    exact ⟨[], body, rest, rfl, by simp [rounds], Nat.le_refl 0, fun _ => .inl rfl⟩
  | succ left ih =>
    obtain ⟨body, later, rfl⟩ := List.exists_cons_of_length_pos (Nat.zero_lt_of_lt enough)
    by_cases more : (BulkRound.ofAnswer documents body).IsComplete ∧
        (BulkRound.ofAnswer documents body).postponed ≠ []
    · obtain ⟨bodies, last, rest, rfl, course⟩ :=
        ih (BulkRound.ofAnswer documents body).postponed (Nat.lt_of_succ_lt_succ enough)
      refine ⟨body :: bodies, last, rest, rfl, ?_, Nat.succ_le_succ course.allowed, ?_⟩
      · intro round mem
        rcases List.mem_cons.1 mem with rfl | mem
        · exact more
        · exact course.going round mem
      · exact fun complete => (course.ending complete).imp_left (congrArg (· + 1))
    · refine ⟨[], body, later, rfl, by simp [rounds], Nat.zero_le _, fun complete => .inr ?_⟩
      exact Decidable.byContradiction fun some => more ⟨complete, some⟩

def acceptedIn (rounds : List BulkRound) : Nat := (rounds.map BulkRound.accepted).sum

/-- The summary `total` adds to `summary` so many documents that are taken for written, and all
others of `documents` as failed. -/
def Adds (summary : Index.BulkSummary) (accepted : Nat) (documents : List Document)
    (total : Index.BulkSummary) : Prop :=
  ∃ errors, total = summary.add ⟨[], accepted, errors⟩ ∧
    accepted + errors.length = documents.length

theorem adds_last {again : Bool} {r : BulkRound} {round : Index.Round}
    (reads : Reads again r round) (done : round.throttled = []) (summary : Index.BulkSummary) :
    Adds summary r.accepted r.documents (summary.add round) := by
  refine ⟨round.errors, ?_, ?_⟩
  · rw [← reads.succeeded]
    rfl
  · rw [← reads.succeeded, ← reads.total, done]
    rfl

theorem adds_cons {r : BulkRound} {round : Index.Round} (reads : Reads true r round)
    {summary total : Index.BulkSummary} {accepted : Nat}
    (later : Adds (summary.add round) accepted r.postponed total) :
    Adds summary (r.accepted + accepted) r.documents total := by
  obtain ⟨errors, rfl, count⟩ := later
  have throttled : round.throttled = r.postponed := by simpa using reads.throttled
  refine ⟨round.errors ++ errors, ?_, ?_⟩
  · simp [Index.BulkSummary.add, reads.succeeded, Nat.add_assoc]
  · rw [← reads.succeeded, ← reads.total, throttled, List.length_append]
    omega

variable {bodies : List Json} {last : Json} {replies tail : List Reply} {left : Nat}
  {summary total : Index.BulkSummary} {link' : Link} {round : Index.Round} {f : Failure}

/-- The link after the rounds of a write. -/
def afterRounds (b : Backend) (documents : List Document) (bodies : List Json) (link : Link) :
    Link :=
  link.exchanged ((rounds documents bodies).map fun r => b.bulkRequest r.documents link.clock)

theorem afterRounds_cons :
    afterRounds b (BulkRound.ofAnswer documents body).postponed bodies
        (link.exchanged [b.bulkRequest documents link.clock]) =
      afterRounds b documents (body :: bodies) link := by
  rw [afterRounds, Link.exchanged_append]
  rfl

/-- A write that succeeds: the last answer has an item for every document. -/
structure Completes (b : Backend) (documents : List Document) (bodies : List Json) (last : Json)
    (summary : Index.BulkSummary) (link : Link) (total : Index.BulkSummary) (link' : Link) :
    Prop where
  complete : (BulkRound.ofAnswer (pending documents bodies) last).IsComplete
  adds : Adds summary (acceptedIn (rounds documents (bodies ++ [last]))) documents total
  sent : link' = afterRounds b documents (bodies ++ [last]) link

/-- A write that fails: the last answer lacks an item for a document. -/
structure Lacks (b : Backend) (documents : List Document) (bodies : List Json) (last : Json)
    (link : Link) (f : Failure) (link' : Link) : Prop where
  short : ¬ (BulkRound.ofAnswer (pending documents bodies) last).IsComplete
  failure : f = .malformed (shortage (pending documents bodies) last)
  sent : link' = afterRounds b documents (bodies ++ [last]) link

theorem Completes.cons (reads : Reads true (.ofAnswer documents body) round)
    (h : Completes b (BulkRound.ofAnswer documents body).postponed bodies last
      (summary.add round) (link.exchanged [b.bulkRequest documents link.clock]) total link') :
    Completes b documents (body :: bodies) last summary link total link' :=
  ⟨h.complete, adds_cons reads h.adds, h.sent.trans afterRounds_cons⟩

theorem Lacks.cons
    (h : Lacks b (BulkRound.ofAnswer documents body).postponed bodies last
      (link.exchanged [b.bulkRequest documents link.clock]) f link') :
    Lacks b documents (body :: bodies) last link f link' :=
  ⟨h.short, h.failure, h.sent.trans afterRounds_cons⟩

/-- The last round: what it does not refuse is written, as nothing is submitted again. -/
theorem lastRound_ends (client : Index.Client)
    (brings : (link.replies.headD link.otherwise).Brings last)
    (sendable : Exchange.unsendable? (b.bulkRequest documents link.clock) = none)
    (filled : documents ≠ []) (course : Course left documents [] last)
    (summary : Index.BulkSummary) :
    (client.upsertRounds summary documents left).Ends (Rehearsal.onCluster b) link
      (Completes b documents [] last summary link) (Lacks b documents [] last link) := by
  have nonempty : documents.isEmpty = false := by simpa using filled
  cases left with
  | zero =>
    unfold Index.Client.upsertRounds
    rw [nonempty, if_neg Bool.false_ne_true]
    refine (submit_ends filled sendable brings false).bind ?_ ?_
    · rintro round link' ⟨reads, rfl⟩
      exact ⟨reads.complete, adds_last reads (by simpa using reads.throttled) summary, rfl⟩
    · rintro f link' ⟨short, rfl, rfl⟩
      exact ⟨short, rfl, rfl⟩
  | succ left =>
    unfold Index.Client.upsertRounds
    rw [nonempty, if_neg Bool.false_ne_true]
    refine (submit_ends filled sendable brings true).bind ?_ ?_
    · rintro round link' ⟨reads, rfl⟩
      have done : round.throttled = [] := by
        rw [reads.throttled]
        exact (course.ending reads.complete).resolve_left (Nat.succ_ne_zero left).symm
      dsimp only
      rw [done]
      exact ⟨reads.complete, adds_last reads done summary, rfl⟩
    · rintro f link' ⟨short, rfl, rfl⟩
      exact ⟨short, rfl, rfl⟩

/-- Any other round: what the answer postpones is submitted by the rounds behind it. -/
theorem nextRound_ends {good : Index.BulkSummary → Link → Prop} {bad : Failure → Link → Prop}
    (client : Index.Client) (brings : (link.replies.headD link.otherwise).Brings body)
    (sendable : Exchange.unsendable? (b.bulkRequest documents link.clock) = none)
    (filled : documents ≠ []) (complete : (BulkRound.ofAnswer documents body).IsComplete)
    (more : (BulkRound.ofAnswer documents body).postponed ≠ []) (summary : Index.BulkSummary)
    (later : ∀ round, Reads true (.ofAnswer documents body) round →
      (client.upsertRounds (summary.add round) (BulkRound.ofAnswer documents body).postponed
          left).Ends (Rehearsal.onCluster b)
        (link.exchanged [b.bulkRequest documents link.clock]) good bad) :
    (client.upsertRounds summary documents (left + 1)).Ends (Rehearsal.onCluster b) link
      good bad := by
  have nonempty : documents.isEmpty = false := by simpa using filled
  unfold Index.Client.upsertRounds
  rw [nonempty, if_neg Bool.false_ne_true]
  refine (submit_ends filled sendable brings true).bind ?_ fun f link' h => absurd complete h.1
  rintro round link' ⟨reads, rfl⟩
  have throttled : round.throttled = (BulkRound.ofAnswer documents body).postponed := by
    simpa using reads.throttled
  dsimp only
  rw [throttled, List.isEmpty_eq_false_iff.2 more, if_neg Bool.false_ne_true]
  refine ((Rehearsal.idle_onCluster (· = _)).log_ends rfl).always_bind ?_
  rintro _ link' rfl
  refine ((Rehearsal.idle_onCluster (· = _)).pause_ends rfl).always_bind ?_
  rintro _ link' rfl
  exact later round reads

/-- A write goes through its rounds and succeeds or fails by the last answer. -/
theorem upsertRounds_ends (client : Index.Client)
    (brought : List.Forall₂ Reply.Brings replies bodies) (brings : reply.Brings last)
    (coming : link.replies = replies ++ reply :: tail)
    (sendable : Exchange.unsendable? (b.bulkRequest documents link.clock) = none)
    (filled : documents ≠ []) (course : Course left documents bodies last)
    (summary : Index.BulkSummary) :
    (client.upsertRounds summary documents left).Ends (Rehearsal.onCluster b) link
      (Completes b documents bodies last summary link) (Lacks b documents bodies last link) := by
  induction brought generalizing documents link summary left with
  | nil => exact lastRound_ends client (by rwa [coming]) sendable filled course summary
  | @cons answered body replies bodies brings' rest ih =>
    obtain ⟨left, rfl⟩ : ∃ n, left = n + 1 :=
      Nat.exists_eq_add_one.2 (Nat.zero_lt_of_lt course.allowed)
    obtain ⟨complete, more⟩ := course.going _ List.mem_cons_self
    refine nextRound_ends client (by rwa [coming]) sendable filled complete more summary
      fun round reads => ?_
    have coming' : (link.exchanged [b.bulkRequest documents link.clock]).replies =
        replies ++ reply :: tail := by
      simp [Link.exchanged, coming]
    have sendable' : Exchange.unsendable? (b.bulkRequest
        (BulkRound.ofAnswer documents body).postponed link.clock) = none :=
      sendable_request sendable _ _ _ _
    exact (ih coming' sendable' more course.tail (summary.add round)).mono
      (fun _ _ h => h.cons reads) fun _ _ h => h.cons

/-- A write sends one request a round. If the last answer lacks an item for a document, the write
fails; otherwise each document is counted once, as written exactly if its own item accepts it, and
as failed if not. An item whose status fits into sixteen bits accepts its document exactly if it
has no error and reports success. -/
theorem upsertBatch_believes (client : Index.Client) (store : Rehearsal.StoreSide)
    (journal : Rehearsal.Journal) (brought : List.Forall₂ Reply.Brings replies bodies)
    (brings : reply.Brings last) (coming : link.replies = replies ++ reply :: tail)
    (sendable : Exchange.unsendable? (b.bulkRequest documents link.clock) = none)
    (filled : documents ≠ []) (course : Course Index.maxResubmissions documents bodies last)
    {outcome : Except Failure Index.BulkSummary} {after : Rehearsal.Stage}
    (run : (Rehearsal.connected store b link journal).run (client.upsertBatch documents) =
      (outcome, after)) :
    after.index = .cluster b (link.exchanged ((rounds documents (bodies ++ [last])).map
        fun round => b.bulkRequest round.documents link.clock)) ∧
      (¬ (BulkRound.ofAnswer (pending documents bodies) last).IsComplete →
        outcome = .error (.malformed (shortage (pending documents bodies) last))) ∧
      ((BulkRound.ofAnswer (pending documents bodies) last).IsComplete →
        ∃ summary, outcome = .ok summary ∧
          summary.succeeded = acceptedIn (rounds documents (bodies ++ [last])) ∧
          summary.failed = summary.errors.length ∧
          summary.succeeded + summary.failed = documents.length) ∧
      (∀ item, (∀ status, ((item.get "index").get "status").nat? = some status → status < 65536) →
        (accepts item = true ↔ Confirms item)) := by
  have ends := upsertRounds_ends client brought brings coming sendable filled course {}
  rw [← Index.Client.upsertBatch] at ends
  obtain ⟨link', journal', left, post⟩ := Rehearsal.run_connected store journal ends
  rw [run] at left post
  cases left
  have narrow := @accepts_iff_confirms
  cases outcome with
  | error f =>
    obtain ⟨short, rfl, sent⟩ := post
    exact ⟨congrArg _ sent, fun _ => rfl, fun complete => absurd complete short,
      fun item => narrow⟩
  | ok summary =>
    obtain ⟨complete, ⟨errors, rfl, total⟩, sent⟩ := post
    refine ⟨congrArg _ sent, fun short => absurd complete short, fun _ => ⟨_, rfl, ?_, ?_, ?_⟩,
      fun item => narrow⟩
    · simp [Index.BulkSummary.add]
    · simp [Index.BulkSummary.add]
    · simpa [Index.BulkSummary.add] using total

/-- The second of two documents is turned away for now and written in a second round. -/
theorem upsertBatch_believes_throttled :
    ∃ (b : Backend) (link : Link) (first second : Document) (summary : Index.BulkSummary),
      ((Rehearsal.connected (.memory {}) b link {}).run
        (({} : Index.Client).upsertBatch [first, second])).1 = .ok summary ∧
      summary.succeeded = 2 ∧ summary.failed = 0 ∧
      ((Rehearsal.connected (.memory {}) b link {}).run
        (({} : Index.Client).upsertBatch [first, second])).2.index =
          .cluster b (link.exchanged
            [b.bulkRequest [first, second] 0, b.bulkRequest [second] 0]) := by
  let item (status : Nat) : Json := Json.object [("index", Json.object [("status", .nat status)])]
  let partly : Reply := .answer 200
    ("\x7b\"items\":[\x7b\"index\":\x7b\"status\":201\x7d\x7d," ++
      "\x7b\"index\":\x7b\"status\":429\x7d\x7d]\x7d")
  let rest : Reply := .answer 200
    "\x7b\"items\":[\x7b\"index\":\x7b\"status\":200\x7d\x7d]\x7d"
  let link : Link := { replies := [partly, rest] }
  let b : Backend := ⟨{ scheme := "http", host := some "localhost" }, "datasets", .anonymous⟩
  let first : Document := { (default : Document) with id := "a" }
  let second : Document := { (default : Document) with id := "b" }
  let body : Json := Json.object [("items", .arr [item 201, item 429])]
  let last : Json := Json.object [("items", .arr [item 200])]
  have course : Course Index.maxResubmissions [first, second] [body] last := by
    refine ⟨?_, by decide, fun _ => .inr rfl⟩
    intro round mem
    cases List.mem_singleton.1 mem
    exact ⟨Nat.le_refl 2, List.cons_ne_nil second []⟩
  have brought : List.Forall₂ Reply.Brings [partly] [body] :=
    .cons ⟨200, _, rfl, rfl, by decide, rfl⟩ .nil
  obtain ⟨sent, -, written, -⟩ := upsertBatch_believes (b := b) {} (.memory {}) {} brought
    (⟨200, _, rfl, rfl, by decide, rfl⟩ : rest.Brings last)
    (rfl : link.replies = [partly] ++ [rest]) (by rfl) (List.cons_ne_nil first [second]) course rfl
  obtain ⟨summary, succeeds, succeeded, -, total⟩ := written (Nat.le_refl 1)
  have two : summary.succeeded = 2 := succeeded
  have all : summary.succeeded + summary.failed = 2 := total
  exact ⟨b, link, first, second, summary, succeeds, two, by omega, sent⟩

/-- Two items for one document, the second of which is dropped; and an item whose status is read as
200, but is another one. -/
theorem upsertBatch_surplus :
    ∃ (b : Backend) (body wide : Json) (surplus overflow : Reply) (item : Json),
      surplus.Brings body ∧ (itemsOf body).length = 2 ∧
      ((Rehearsal.connected (.memory {}) b { replies := [surplus] } {}).run
        (({} : Index.Client).upsertBatch [default])).1 = .ok { succeeded := 1 } ∧
      overflow.Brings wide ∧ itemsOf wide = [item] ∧ ¬ Confirms item ∧
      ((Rehearsal.connected (.memory {}) b { replies := [overflow] } {}).run
        (({} : Index.Client).upsertBatch [default])).1 = .ok { succeeded := 1 } := by
  let written (status : Nat) : Json :=
    Json.object [("index", Json.object [("status", .nat status)])]
  let surplus : Reply := .answer 200
    ("\x7b\"items\":[\x7b\"index\":\x7b\"status\":201\x7d\x7d," ++
      "\x7b\"index\":\x7b\"status\":201\x7d\x7d]\x7d")
  let overflow : Reply := .answer 200
    "\x7b\"items\":[\x7b\"index\":\x7b\"status\":65736\x7d\x7d]\x7d"
  let b : Backend := ⟨{ scheme := "http", host := some "localhost" }, "datasets", .anonymous⟩
  refine ⟨b, Json.object [("items", .arr [written 201, written 201])],
    Json.object [("items", .arr [written 65736])], surplus, overflow, written 65736,
    ⟨200, _, rfl, rfl, by decide, rfl⟩, rfl, ?_, ⟨200, _, rfl, rfl, by decide, rfl⟩, rfl, ?_, ?_⟩
  · dsimp only [b, surplus]
    rfl
  · rintro ⟨-, status, read, -, high⟩
    cases read
    omega
  · dsimp only [b, overflow]
    rfl

end Backend

end CatalogSearch.Cluster
