import CatalogSearch.Proofs.Index.Outcomes
import CatalogSearch.Proofs.Repair.Batches

/-!
# What the history of a repair shows

A history tells which documents were written, which ids were noted as gone, what was reported of
each batch, and how each deletion ended. All batches together account for their ids: each is
written, refused or gone, and what the summary adds up is what the history shows.
-/
namespace CatalogSearch.Repair

open Index (Client DeleteOutcome Named Refused taken)
open Job (Event)

variable {store : Store.Memory} {client : Client} {history : List Event}

/-- The store answers as it does in memory, and a bulk request has one outcome for each document,
where a refusal names its document. Everything else may be answered in any way. -/
def Answered (store : Store.Memory) : Event → Prop
  | ⟨.store call, answer⟩ => answer = store.answer call
  | ⟨.index (.bulk documents), .ok outcomes⟩ => Named documents outcomes
  | _ => True

def vanishedMessage : String := "record vanished from store before repair, skipping"

/-- The id that an event notes as vanished. -/
def vanished? : Event → Option String
  | ⟨.log entry, _⟩ =>
    if entry.target = logTarget ∧ entry.message = vanishedMessage then
      Keyed.find? "id" entry.details
    else none
  | _ => none

/-- The report of a batch. -/
structure BatchReport where
  batch : Nat
  totalBatches : Nat
  indexed : Nat
  skipped : Nat
  deriving DecidableEq, Repr

/-- The batch that an event reports. -/
def report? : Event → Option BatchReport
  | ⟨.report (.repairBatch batch totalBatches indexed skipped), _⟩ =>
    some ⟨batch, totalBatches, indexed, skipped⟩
  | _ => none

/-- How a request to delete a document ended. -/
def ending : Except Failure Unit → DeleteOutcome
  | .ok () => .deleted
  | .error f => if f.isNotFound then .missing else .failed f.full

def deletion? : Event → Option (String × DeleteOutcome)
  | ⟨.index (.deleteDocument id), answer⟩ => some (id, ending answer)
  | _ => none

def deleteFailure? : String × DeleteOutcome → Option (String × String)
  | (id, .failed reason) => some (id, reason)
  | _ => none

def isWriting : Event → Bool
  | ⟨.store _, _⟩ => true
  | ⟨.index (.bulk _), _⟩ => true
  | e => (vanished? e).isSome || (report? e).isSome

/-- The event by which an id is noted as vanished. -/
def vanishedNote (id : String) : Event :=
  ⟨.log ⟨.warn, logTarget, vanishedMessage, [("id", id)]⟩, ()⟩

/-- An effect that is no report of a batch, no note of a vanished id and no deletion. -/
def Silent (effect : Effect) : Prop :=
  ∀ answer, vanished? ⟨effect, answer⟩ = none ∧ report? ⟨effect, answer⟩ = none ∧
    deletion? ⟨effect, answer⟩ = none

theorem silent_log {entry : Log.Entry}
    (other : ¬ (entry.target = logTarget ∧ entry.message = vanishedMessage)) :
    Silent (.log entry) :=
  fun _ => ⟨if_neg other, rfl, rfl⟩

/-- What a history shows of a repair. -/
structure Shows (history : List Event) (written absent : List String)
    (reports : List BatchReport) (deletions : List (String × DeleteOutcome)) : Prop where
  written : history.flatMap taken = written
  vanished : history.filterMap vanished? = absent
  reports : history.filterMap report? = reports
  deletions : history.filterMap deletion? = deletions

theorem Shows.append {history' : List Event} {written absent written' absent' : List String}
    {reports reports' : List BatchReport} {deletions deletions' : List (String × DeleteOutcome)}
    (h : Shows history written absent reports deletions)
    (h' : Shows history' written' absent' reports' deletions') :
    Shows (history ++ history') (written ++ written') (absent ++ absent') (reports ++ reports')
      (deletions ++ deletions') where
  written := by rw [List.flatMap_append, h.written, h'.written]
  vanished := by rw [List.filterMap_append, h.vanished, h'.vanished]
  reports := by rw [List.filterMap_append, h.reports, h'.reports]
  deletions := by rw [List.filterMap_append, h.deletions, h'.deletions]

/-- Silent effects show nothing but the documents written. -/
theorem shows_of_silent (silent : ∀ e ∈ history, Silent e.1) :
    Shows history (history.flatMap taken) [] [] [] where
  written := rfl
  vanished := List.filterMap_eq_nil_iff.2 fun e mem => (silent e mem e.2).1
  reports := List.filterMap_eq_nil_iff.2 fun e mem => (silent e mem e.2).2.1
  deletions := List.filterMap_eq_nil_iff.2 fun e mem => (silent e mem e.2).2.2

/-- Notes of vanished ids show these ids. -/
theorem shows_vanishedNotes (ids : List String) : Shows (ids.map vanishedNote) [] ids [] [] := by
  induction ids with
  | nil => exact ⟨rfl, rfl, rfl, rfl⟩
  | cons id rest ih =>
    have first : Shows [vanishedNote id] [] [id] [] [] := ⟨rfl, rfl, rfl, rfl⟩
    exact first.append ih

/-- Where nothing is written, no more than deletions are shown. -/
theorem shows_of_not_writing (later : ∀ e ∈ history, isWriting e = false) :
    Shows history [] [] [] (history.filterMap deletion?) := by
  have each (e : Event) (other : isWriting e = false) :
      taken e = [] ∧ vanished? e = none ∧ report? e = none := by
    unfold isWriting at other
    split at other
    · cases other
    · cases other
    · next notStore notBulk =>
      rw [Bool.or_eq_false_iff, Option.isSome_eq_false_iff, Option.isNone_iff_eq_none,
        Option.isSome_eq_false_iff, Option.isNone_iff_eq_none] at other
      refine ⟨?_, other⟩
      unfold taken
      split
      · exact absurd rfl (notBulk _ _)
      · rfl
  constructor
  case written => exact List.flatMap_eq_nil_iff.2 fun e mem => (each e (later e mem)).1
  case vanished => exact List.filterMap_eq_nil_iff.2 fun e mem => (each e (later e mem)).2.1
  case reports => exact List.filterMap_eq_nil_iff.2 fun e mem => (each e (later e mem)).2.2
  case deletions => rfl

theorem shows_report (batch totalBatches indexed skipped : Nat) :
    Shows [⟨.report (.repairBatch batch totalBatches indexed skipped), ()⟩] [] []
      [⟨batch, totalBatches, indexed, skipped⟩] [] :=
  ⟨rfl, rfl, rfl, rfl⟩

def absent (store : Store.Memory) (ids : List String) : List String :=
  ids.filter fun id => !Keyed.contains id store.records

def present (store : Store.Memory) (ids : List String) : List String :=
  ids.filter fun id => Keyed.contains id store.records

/-- The key under which a refused document is attributed to a harvest source. -/
def Blamed (store : Store.Memory) (documentId key : String) : Prop :=
  ∃ r, Keyed.find? documentId store.records = some r ∧
    (r.harvestSource.map (·.id)).getD unknownSource = key

/-- What writing some batches adds to a summary, and the history of it. -/
structure Batched (store : Store.Memory) (sampleSize totalBatches first : Nat)
    (batches : List (List String)) (before after : RepairSummary) (history : List Event) :
    Prop where
  indexed : after.indexed = before.indexed + (history.flatMap taken).length
  vanished : history.filterMap vanished? = absent store batches.flatten
  skipped : after.skipped = before.skipped + (history.filterMap vanished?).length
  sample : after.skippedSample = before.skippedSample ++
    (history.filterMap vanished?).take (sampleSize - before.skippedSample.length)
  failures : ∃ errors, after.failures = before.failures ++ errors ∧
    (history.flatMap taken ++ errors.map (·.documentId)).Perm (present store batches.flatten) ∧
    (∀ e ∈ errors, Refused history e) ∧
    ∀ key, key ∈ Keyed.keys after.failedSources ↔
      key ∈ Keyed.keys before.failedSources ∨ ∃ e ∈ errors, Blamed store e.documentId key
  numbered : (history.filterMap report?).map (·.batch) = List.range' first batches.length
  counted : ∀ r ∈ history.filterMap report?, r.totalBatches = totalBatches
  reportedIndexed : ((history.filterMap report?).map (·.indexed)).sum =
    (history.flatMap taken).length
  reportedSkipped : (history.filterMap report?).map (·.skipped) =
    batches.map fun ids => (absent store ids).length
  deletions : history.filterMap deletion? = []
  deleted : after.deleted = before.deleted
  deleteFailures : after.deleteFailures = before.deleteFailures

theorem logVanished_ran {ids : List String} (ran : (logVanished ids).Ran history ()) :
    history = ids.map vanishedNote := by
  induction ids generalizing history with
  | nil => exact ran.1
  | cons id rest ih =>
    obtain ⟨_, _, later, rfl, noted, ran⟩ := Job.ran_bind.1 ran
    rw [Job.ran_perform.1 noted, ih ran]
    rfl

/-- Among the records of a batch, a document's is found. -/
theorem find?_found (hstore : store.Sound) {ids : List String} {documentId : String}
    (known : documentId ∈ (found store ids).map (·.id)) :
    (found store ids).find? (fun r => r.id = documentId) =
      Keyed.find? documentId store.records := by
  cases first : (found store ids).find? fun r => r.id = documentId with
  | none =>
    obtain ⟨r, mem, same⟩ := List.mem_map.1 known
    have other := List.find?_eq_none.1 first r mem
    simp [same] at other
  | some r =>
    have same : r.id = documentId := by simpa using List.find?_some first
    obtain ⟨id, -, stored⟩ := List.mem_filterMap.1 (List.mem_of_find?_eq_some first)
    obtain rfl : r.id = id := hstore.keyed (id, r) (Keyed.mem_of_find? stored)
    rw [← same, stored]

/-- The keys after blaming a document. -/
theorem mem_keys_blame (hstore : store.Sound) {ids : List String} {documentId : String}
    (known : documentId ∈ (found store ids).map (·.id)) (sources : List (String × String))
    (key : String) : key ∈ Keyed.keys (blame (found store ids) documentId sources) ↔
      key ∈ Keyed.keys sources ∨ Blamed store documentId key := by
  have put (name value : String) : key ∈ Keyed.keys (Keyed.insert name value sources) ↔
      key ∈ Keyed.keys sources ∨ name = key := by
    rw [← Keyed.contains_iff, ← Keyed.contains_iff, Keyed.contains, Keyed.find?_insert,
      Keyed.contains]
    split
    · next same => simp [same]
    · next different => simp [different]
  have stored : Keyed.contains documentId store.records = true := by
    rw [ids_found hstore] at known
    exact (List.mem_filter.1 known).2
  obtain ⟨r, here⟩ := Option.isSome_iff_exists.1 stored
  have blamed : Blamed store documentId key ↔
      (r.harvestSource.map (·.id)).getD unknownSource = key := by
    simp [Blamed, here]
  rw [blamed, blame, find?_found hstore known, here, Option.bind_some]
  cases r.harvestSource with
  | none => exact put ..
  | some source => exact put ..

/-- The keys after blaming all documents that were refused. -/
theorem mem_keys_foldl_blame (hstore : store.Sound) {ids : List String} {errors : List ItemError}
    (known : ∀ e ∈ errors, e.documentId ∈ (found store ids).map (·.id))
    (sources : List (String × String)) (key : String) :
    key ∈ Keyed.keys (errors.foldl
        (fun sources e => blame (found store ids) e.documentId sources) sources) ↔
      key ∈ Keyed.keys sources ∨ ∃ e ∈ errors, Blamed store e.documentId key := by
  induction errors generalizing sources with
  | nil => simp
  | cons e rest ih =>
    rw [List.foldl_cons, ih fun e mem => known e (List.mem_cons_of_mem _ mem),
      mem_keys_blame hstore (known e List.mem_cons_self)]
    simp [or_assoc]

/-- A bulk write is silent. -/
theorem bulky_silent : Index.Bulky Silent where
  bulk _ _ := ⟨rfl, rfl, rfl⟩
  note entry target := silent_log fun same => absurd (target.symm.trans same.1) (by decide)
  pause _ _ := ⟨rfl, rfl, rfl⟩

/-- What a batch asks for, and the summary that it returns. -/
theorem repairBatch_returned {sampleSize totalBatches batch : Nat} {ids : List String}
    {before after : RepairSummary} (hstore : store.Sound)
    (ran : (repairBatch client sampleSize totalBatches batch ids before).Returned history after)
    (answered : ∀ e ∈ history, Answered store e) :
    ∃ during result,
      (client.upsertBatch ((found store ids).map Document.ofRecord)).Returned during result ∧
      history = [⟨.store (.findByIds ids), .ok (found store ids)⟩] ++
        ((absent store ids).map vanishedNote ++ (during ++
          [⟨.report (.repairBatch batch totalBatches result.succeeded (absent store ids).length),
            ()⟩])) ∧
      after = { before with
        indexed := before.indexed + result.succeeded
        skipped := before.skipped + (absent store ids).length
        skippedSample := before.skippedSample ++
          (absent store ids).take (sampleSize - before.skippedSample.length)
        failures := before.failures ++ result.errors
        failedSources := result.errors.foldl
          (fun sources e => blame (found store ids) e.documentId sources)
          before.failedSources } := by
  unfold repairBatch at ran
  obtain ⟨records, _, _, rfl, fetched, ran₁⟩ := Task.returned_bind.1 ran
  obtain rfl := Task.returned_store.1 (Task.returned_withContext.1 fetched)
  obtain rfl : records = found store ids := Except.ok.inj (answered _ List.mem_cons_self)
  have vanished : (ids.filter fun id => !(found store ids).any fun r => r.id = id) =
    absent store ids := vanished_eq hstore ids
  dsimp only at ran₁
  rw [vanished] at ran₁
  obtain ⟨_, _, _, rfl, noted, ran₂⟩ := Task.returned_bind.1 ran₁
  obtain rfl := logVanished_ran (Task.returned_always.1 noted)
  obtain ⟨result, during, _, rfl, written, ran₃⟩ := Task.returned_bind.1 ran₂
  obtain ⟨_, _, _, rfl, reported, ran₄⟩ := Task.returned_bind.1 ran₃
  obtain rfl := Job.ran_perform.1 (Task.returned_always.1 reported)
  obtain ⟨rfl, rfl⟩ := Task.returned_pure.1 ran₄
  exact ⟨during, result, written, rfl, rfl⟩

/-- One batch accounts for its ids. -/
theorem repairBatch_batched {sampleSize totalBatches batch : Nat} {ids : List String}
    {before after : RepairSummary} (hstore : store.Sound)
    (ran : (repairBatch client sampleSize totalBatches batch ids before).Returned history after)
    (answered : ∀ e ∈ history, Answered store e) :
    Batched store sampleSize totalBatches batch [ids] before after history := by
  obtain ⟨during, result, written, rfl, rfl⟩ := repairBatch_returned hstore ran answered
  have named : ∀ documents outcomes,
      ⟨.index (.bulk documents), .ok outcomes⟩ ∈ during → Named documents outcomes :=
    fun documents outcomes mem => answered ⟨.index (.bulk documents), .ok outcomes⟩ (by simp [mem])
  obtain ⟨succeeded, perm, refused⟩ := Index.upsertBatch_returned written named
  rw [Document.ids_ofRecord, ids_found hstore] at perm
  have asked : Shows [⟨.store (.findByIds ids), .ok (found store ids)⟩] [] [] [] [] :=
    ⟨rfl, rfl, rfl, rfl⟩
  have shown := asked.append <| (shows_vanishedNotes (absent store ids)).append <|
    (shows_of_silent (Job.Ran.confined written (bulky_silent.upsertBatch _ _))).append
      (shows_report batch totalBatches result.succeeded (absent store ids).length)
  simp only [List.nil_append, List.append_nil] at shown
  have flat : [ids].flatten = ids := List.flatten_singleton
  constructor
  case indexed => rw [shown.written, ← succeeded]
  case vanished => rw [shown.vanished, flat]
  case skipped => rw [shown.vanished]
  case sample => rw [shown.vanished]
  case failures =>
    rw [shown.written, flat]
    refine ⟨result.errors, rfl, perm, fun e mem => (refused e mem).mono fun event inside => ?_,
      fun key => mem_keys_foldl_blame hstore ?_ _ key⟩
    · simp [inside]
    intro e mem
    rw [ids_found hstore]
    exact perm.subset (List.mem_append_right _ (List.mem_map_of_mem mem))
  case numbered => rw [shown.reports]; rfl
  case counted =>
    rw [shown.reports]
    exact List.forall_mem_singleton.2 rfl
  case reportedIndexed =>
    rw [shown.reports, shown.written, ← succeeded]
    exact List.sum_singleton
  case reportedSkipped => rw [shown.reports]; rfl
  case deletions => exact shown.deletions
  case deleted => rfl
  case deleteFailures => rfl

/-- Batches in a row account for the ids of all. -/
theorem Batched.cons {sampleSize totalBatches first : Nat} {ids : List String}
    {rest : List (List String)} {before middle after : RepairSummary} {history' : List Event}
    (h : Batched store sampleSize totalBatches first [ids] before middle history)
    (h' : Batched store sampleSize totalBatches (first + 1) rest middle after history') :
    Batched store sampleSize totalBatches first (ids :: rest) before after
      (history ++ history') := by
  have flat : [ids].flatten = ids := List.flatten_singleton
  have split : (history ++ history').filterMap vanished? =
      history.filterMap vanished? ++ history'.filterMap vanished? := List.filterMap_append
  constructor
  case indexed =>
    rw [h'.indexed, h.indexed, List.flatMap_append, List.length_append, Nat.add_assoc]
  case vanished =>
    rw [split, h.vanished, h'.vanished, flat]
    exact (List.filter_append ..).symm
  case skipped => rw [h'.skipped, h.skipped, split, List.length_append, Nat.add_assoc]
  case sample =>
    have room : sampleSize - (before.skippedSample ++ (history.filterMap vanished?).take
        (sampleSize - before.skippedSample.length)).length =
        sampleSize - before.skippedSample.length - (history.filterMap vanished?).length := by
      rw [List.length_append, List.length_take]
      omega
    rw [h'.sample, h.sample, room, split, List.take_append, List.append_assoc]
  case failures =>
    obtain ⟨errors, failures, perm, refused, keys⟩ := h.failures
    obtain ⟨errors', failures', perm', refused', keys'⟩ := h'.failures
    refine ⟨errors ++ errors', by rw [failures', failures, List.append_assoc], ?_, ?_,
      fun key => ?_⟩
    · have both := perm.append perm'
      rw [flat, List.append_assoc] at both
      rw [List.flatMap_append, List.map_append, List.flatten_cons, present, List.filter_append,
        List.append_assoc]
      exact (List.perm_append_comm_assoc _ _ _).append_left _ |>.trans both
    · exact List.forall_mem_append.2
        ⟨fun e mem => (refused e mem).mono (List.subset_append_left ..),
          fun e mem => (refused' e mem).mono (List.subset_append_right ..)⟩
    · rw [keys', keys]
      simp [or_and_right, exists_or, or_assoc]
  case numbered =>
    rw [List.filterMap_append, List.map_append, h.numbered, h'.numbered]
    exact (List.range'_succ).symm
  case counted =>
    rw [List.filterMap_append]
    exact List.forall_mem_append.2 ⟨h.counted, h'.counted⟩
  case reportedIndexed =>
    rw [List.filterMap_append, List.map_append, List.sum_append, h.reportedIndexed,
      h'.reportedIndexed, List.flatMap_append, List.length_append]
  case reportedSkipped =>
    rw [List.filterMap_append, List.map_append, h.reportedSkipped, h'.reportedSkipped]
    exact List.map_append.symm
  case deletions => rw [List.filterMap_append, h.deletions, h'.deletions]; rfl
  case deleted => rw [h'.deleted, h.deleted]
  case deleteFailures => rw [h'.deleteFailures, h.deleteFailures]

theorem Batched.nil (store : Store.Memory) (sampleSize totalBatches first : Nat)
    (summary : RepairSummary) :
    Batched store sampleSize totalBatches first [] summary summary [] where
  indexed := rfl
  vanished := rfl
  skipped := rfl
  sample := by simp
  failures := ⟨[], (List.append_nil _).symm, .nil, by simp, by simp⟩
  numbered := rfl
  counted := nofun
  reportedIndexed := rfl
  reportedSkipped := rfl
  deletions := rfl
  deleted := rfl
  deleteFailures := rfl

/-- All batches account for their ids. -/
theorem repairBatches_batched {sampleSize totalBatches first : Nat} {batches : List (List String)}
    {before after : RepairSummary} (hstore : store.Sound)
    (ran : (repairBatches client sampleSize totalBatches first batches before).Returned history
      after)
    (answered : ∀ e ∈ history, Answered store e) :
    Batched store sampleSize totalBatches first batches before after history := by
  induction batches generalizing first before history with
  | nil =>
    obtain ⟨rfl, rfl⟩ := Task.returned_pure.1 ran
    exact .nil ..
  | cons ids rest ih =>
    unfold repairBatches at ran
    obtain ⟨middle, _, _, rfl, one, ran⟩ := Task.returned_bind.1 ran
    obtain ⟨here, later⟩ := List.forall_mem_append.1 answered
    exact (repairBatch_batched hstore one here).cons (ih ran later)

end CatalogSearch.Repair
