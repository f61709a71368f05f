import CatalogSearch.Proofs.Drift.Difference
import CatalogSearch.Proofs.Repair.Shown

/-!
# Repairs account for every id

Whatever an index answers, and however the store has changed since the drift was computed, a repair
that comes to its end has written, refused or skipped each missing or updated id, and has tried to
delete each extra document once, after all batches.
-/
namespace CatalogSearch.Repair

open Index (Client DeleteOutcome Refused taken)
open Job (Event)

variable {store : Store.Memory} {client : Client} {history : List Event}

/-- What deleting some documents adds to a summary, and the history of it. -/
structure Deletes (ids : List String) (before after : RepairSummary) (history : List Event) :
    Prop where
  ids : (history.filterMap deletion?).map (·.1) = ids
  summary : after = { before with
    deleted := before.deleted +
      (history.filterMap deletion?).countP fun deletion => deletion.2 = .deleted
    deleteFailures := before.deleteFailures ++
      (history.filterMap deletion?).filterMap deleteFailure? }
  after : ∀ e ∈ history, isWriting e = false

theorem deleteById_ran {id : String} {outcome : DeleteOutcome}
    (ran : (Client.deleteById id).Ran history outcome) :
    ∃ answer, history = [⟨.index (.deleteDocument id), answer⟩] ∧ outcome = ending answer := by
  obtain ⟨answer, _, _, rfl, called, ended⟩ := Job.ran_bind.1 ran
  obtain rfl := Job.ran_perform.1 called
  cases answer with
  | ok value =>
    obtain ⟨rfl, rfl⟩ := ended
    exact ⟨.ok value, rfl, rfl⟩
  | error f =>
    refine ⟨.error f, ?_⟩
    dsimp only at ended
    rw [ending]
    split at ended <;> obtain ⟨rfl, rfl⟩ := ended
    · next absent => exact ⟨rfl, (if_pos absent).symm⟩
    · next other => exact ⟨rfl, (if_neg other).symm⟩

/-- Deleting one document asks for that, and notes how it ended. -/
theorem deleteExtra_ran {id : String} {before after : RepairSummary}
    (ran : (deleteExtra id before).Ran history after) : Deletes [id] before after history := by
  obtain ⟨outcome, _, _, rfl, called, noted⟩ := Job.ran_bind.1 ran
  obtain ⟨answer, rfl, rfl⟩ := deleteById_ran called
  cases ended : ending answer with
  | deleted =>
    rw [ended] at noted
    obtain ⟨rfl, rfl⟩ := noted
    refine ⟨rfl, ?_, by simp [isWriting, vanished?, vanishedMessage, report?]⟩
    simp [deletion?, ended, List.filterMap_cons, deleteFailure?]
  | missing =>
    rw [ended] at noted
    obtain ⟨_, _, _, rfl, note, rfl, rfl⟩ := Job.ran_bind.1 noted
    obtain rfl := Job.ran_perform.1 note
    refine ⟨rfl, ?_, by simp [isWriting, vanished?, vanishedMessage, report?]⟩
    simp [deletion?, ended, List.filterMap_cons, deleteFailure?]
  | failed reason =>
    rw [ended] at noted
    obtain ⟨_, _, _, rfl, note, rfl, rfl⟩ := Job.ran_bind.1 noted
    obtain rfl := Job.ran_perform.1 note
    refine ⟨rfl, ?_, by simp [isWriting, vanished?, vanishedMessage, report?]⟩
    simp [deletion?, ended, List.filterMap_cons, deleteFailure?]

/-- Deletions in a row are made one by one. -/
theorem Deletes.cons {id : String} {rest : List String} {before middle after : RepairSummary}
    {history' : List Event} (h : Deletes [id] before middle history)
    (h' : Deletes rest middle after history') :
    Deletes (id :: rest) before after (history ++ history') where
  ids := by
    rw [List.filterMap_append, List.map_append, h.ids, h'.ids]
    rfl
  summary := by
    rw [h'.summary, h.summary, List.filterMap_append, List.countP_append, List.filterMap_append,
      Nat.add_assoc, List.append_assoc]
  after := List.forall_mem_append.2 ⟨h.after, h'.after⟩

theorem deleteExtras_ran {ids : List String} {before after : RepairSummary}
    (ran : (deleteExtras ids before).Ran history after) : Deletes ids before after history := by
  induction ids generalizing before history with
  | nil =>
    obtain ⟨rfl, rfl⟩ := ran
    exact ⟨rfl, by simp, nofun⟩
  | cons id rest ih =>
    obtain ⟨middle, _, _, rfl, one, ran⟩ := Job.ran_bind.1 ran
    exact (deleteExtra_ran one).cons (ih ran)

/-- The documents that were to be deleted were deleted, were not there, or could not be deleted. -/
theorem length_deletions (deletions : List (String × DeleteOutcome)) :
    deletions.length = deletions.countP (fun deletion => deletion.2 = .deleted) +
      deletions.countP (fun deletion => deletion.2 = .missing) +
      (deletions.filterMap deleteFailure?).length := by
  induction deletions with
  | nil => rfl
  | cons deletion rest ih =>
    obtain ⟨id, outcome⟩ := deletion
    cases outcome <;> simp [List.filterMap_cons, deleteFailure?, ih] <;> omega

/-- Each of the documents that were to be deleted is counted or named once, unless it was not
there. -/
theorem Deletes.total {ids : List String} {before after : RepairSummary}
    (h : Deletes ids before after history) :
    before.deleted + before.deleteFailures.length + ids.length = after.deleted +
      (history.filterMap deletion?).countP (fun deletion => deletion.2 = .missing) +
      after.deleteFailures.length := by
  rw [h.summary, ← h.ids, List.length_map, length_deletions]
  simp only [List.length_append]
  omega

/-- An effect that belongs neither to the writing of a batch nor to a deletion. -/
def Closing (effect : Effect) : Prop :=
  ∀ answer, isWriting ⟨effect, answer⟩ = false ∧ deletion? ⟨effect, answer⟩ = none

/-- After the deletions, nothing is written or deleted any more. -/
theorem closing_ran {d : Drift} {summary after : RepairSummary}
    (ran : Task.Returned (do
      if !d.extra.isEmpty then
        Task.always (Job.report (.repairDeleted summary.deleted summary.deleteFailures.length))
      (client.withTimeoutRetry "refresh" (Task.index .refresh)).withContext
        "Failed to refresh index after repair"
      Task.always (Job.log .info logTarget "repair finished"
        [("indexed", toString summary.indexed), ("skipped", toString summary.skipped),
          ("deleted", toString summary.deleted), ("failed", toString summary.failures.length)])
      return summary) history after) :
    after = summary ∧ ∀ e ∈ history, isWriting e = false ∧ deletion? e = none := by
  have note {entry : Log.Entry} (silent : Silent (.log entry)) : Closing (.log entry) :=
    fun _ => ⟨by simp [isWriting, (silent ()).1, (silent ()).2.1], rfl⟩
  have refresh : ((client.withTimeoutRetry "refresh" (Task.index .refresh)).withContext
      "Failed to refresh index after repair").Confined Closing := by
    refine Task.Confined.withContext (Task.Confined.withTimeoutRetry ?_ ?_ ?_ client _)
    · exact Task.confined_index fun _ => ⟨rfl, rfl⟩
    · refine fun entry target => note (silent_log fun same => ?_)
      exact absurd (target.symm.trans same.1) (by decide)
    · exact fun _ _ => ⟨rfl, rfl⟩
  have rest {history : List Event} (ran : Task.Returned (do
      (client.withTimeoutRetry "refresh" (Task.index .refresh)).withContext
        "Failed to refresh index after repair"
      Task.always (Job.log .info logTarget "repair finished"
        [("indexed", toString summary.indexed), ("skipped", toString summary.skipped),
          ("deleted", toString summary.deleted), ("failed", toString summary.failures.length)])
      return summary) history after) :
      after = summary ∧ ∀ e ∈ history, isWriting e = false ∧ deletion? e = none := by
    obtain ⟨_, first, _, rfl, refreshed, ran₁⟩ := Task.returned_bind.1 ran
    obtain ⟨_, _, _, rfl, noted, ran₂⟩ := Task.returned_bind.1 ran₁
    obtain rfl := Job.ran_perform.1 (Task.returned_always.1 noted)
    obtain ⟨rfl, rfl⟩ := Task.returned_pure.1 ran₂
    refine ⟨rfl, List.forall_mem_append.2 ⟨fun e mem => ?_, List.forall_mem_singleton.2 ?_⟩⟩
    · exact Job.Ran.confined refreshed refresh e mem e.2
    · exact note (silent_log fun same => absurd same.2 (by simp [vanishedMessage])) _
  dsimp only at ran
  split at ran
  · obtain ⟨_, _, later, rfl, reported, ran₁⟩ := Task.returned_bind.1 ran
    obtain rfl := Job.ran_perform.1 (Task.returned_always.1 reported)
    obtain ⟨same, closing⟩ := rest ran₁
    exact ⟨same, List.forall_mem_append.2 ⟨List.forall_mem_singleton.2 ⟨rfl, rfl⟩, closing⟩⟩
  · exact rest ran

/-- What neither writes nor deletes may follow the deletions. -/
theorem Deletes.closed {ids : List String} {before after : RepairSummary} {history' : List Event}
    (h : Deletes ids before after history)
    (closing : ∀ e ∈ history', isWriting e = false ∧ deletion? e = none) :
    Deletes ids before after (history ++ history') := by
  have same : (history ++ history').filterMap deletion? = history.filterMap deletion? := by
    rw [List.filterMap_append, List.append_right_eq_self, List.filterMap_eq_nil_iff]
    exact fun e mem => (closing e mem).2
  constructor
  case ids => rw [same, h.ids]
  case summary => rw [same, h.summary]
  case after => exact List.forall_mem_append.2 ⟨h.after, fun e mem => (closing e mem).1⟩

/-- The number of parts into which a list is cut. -/
theorem length_chunks {α : Type} {size : Nat} (positive : 1 ≤ size) (items : List α) :
    (chunks size items).length = (items.length + size - 1) / size := by
  have cut (fuel : Nat) (items : List α) (enough : items.length ≤ fuel) :
      (chunksOf size fuel items).length = (items.length + size - 1) / size := by
    have none : (([] : List α).length + size - 1) / size = 0 := Nat.div_eq_of_lt (by simp; omega)
    induction fuel generalizing items with
    | zero =>
      obtain rfl := List.length_eq_zero_iff.1 (Nat.le_zero.1 enough)
      exact none.symm
    | succ fuel ih =>
      cases items with
      | nil => exact none.symm
      | cons item rest =>
        have fits : ((item :: rest).drop size).length ≤ fuel := by
          simp only [List.length_drop, List.length_cons] at enough ⊢
          omega
        rw [chunksOf, List.length_cons, ih _ fits, List.length_drop, List.length_cons]
        · have more : rest.length + 1 + size - 1 = rest.length + size := by omega
          rw [more, Nat.add_div_right _ positive]
          rcases Nat.lt_or_ge rest.length size with short | long
          · rw [Nat.div_eq_of_lt short, Nat.div_eq_of_lt (by omega)]
          · rw [show rest.length + 1 - size + size - 1 = rest.length by omega]
        · simp
  exact cut items.length items (Nat.le_refl _)

theorem sum_absent (store : Store.Memory) (batches : List (List String)) :
    (batches.map fun ids => (absent store ids).length).sum =
      (absent store batches.flatten).length := by
  rw [absent, List.filter_flatten, List.length_flatten, List.map_map]
  rfl

namespace Batched

variable {sampleSize total first : Nat} {batches : List (List String)}
  {before middle after : RepairSummary}

/-- The batches of a repair write, refuse or miss each of their ids. -/
theorem partition (h : Batched store sampleSize total first batches {} after history) :
    (history.flatMap taken ++ after.failures.map (·.documentId) ++
      absent store batches.flatten).Perm batches.flatten := by
  obtain ⟨errors, failures, perm, -, -⟩ := h.failures
  obtain rfl : after.failures = errors := failures
  exact (perm.append_right _).trans (List.filter_append_perm _ _)

/-- What the batches of a repair say of the documents that were refused. -/
theorem refusals (h : Batched store sampleSize total first batches {} after history) :
    (∀ e ∈ after.failures, ∃ r, Keyed.find? e.documentId store.records = some r) ∧
      (∀ e ∈ after.failures, Refused history e) ∧
      ∀ key, key ∈ Keyed.keys after.failedSources ↔
        ∃ e ∈ after.failures, Blamed store e.documentId key := by
  obtain ⟨errors, failures, perm, refused, keys⟩ := h.failures
  obtain rfl : after.failures = errors := failures
  refine ⟨fun e mem => ?_, refused, fun key => ?_⟩
  · have here := perm.subset (List.mem_append_right _ (List.mem_map_of_mem mem))
    exact Option.isSome_iff_exists.1 (List.mem_filter.1 here).2
  · rw [keys]
    simp [Keyed.keys]

/-- What batches and then deletions show. -/
theorem shows (h : Batched store sampleSize total first batches before middle history)
    {ids : List String} {history' : List Event} (h' : Deletes ids middle after history') :
    Shows (history ++ history') (history.flatMap taken) (absent store batches.flatten)
      (history.filterMap report?) (history'.filterMap deletion?) := by
  have writing : Shows history (history.flatMap taken) (absent store batches.flatten)
      (history.filterMap report?) [] := ⟨rfl, h.vanished, rfl, h.deletions⟩
  simpa using writing.append (shows_of_not_writing h'.after)

end Batched

/-- A repair that comes to its end has written its batches and then deleted the extra documents. -/
theorem parts_of_returned {d : Drift} {batchSize sampleSize : Nat} {summary : RepairSummary}
    (hstore : store.Sound) (ran : (repair client batchSize d sampleSize).Returned history summary)
    (answered : ∀ e ∈ history, Answered store e) :
    ∃ writing deleting written, history = writing ++ deleting ∧
      Batched store sampleSize (chunks (max batchSize 1) d.idsToIndex).length 1
        (chunks (max batchSize 1) d.idsToIndex) {} written writing ∧
      Deletes d.extra written summary deleting := by
  unfold repair at ran
  dsimp only at ran
  obtain ⟨written, writing, _, rfl, wrote, ran₁⟩ := Task.returned_bind.1 ran
  obtain ⟨deleted, deleting, closing, rfl, erased, ran₂⟩ := Task.returned_bind.1 ran₁
  obtain ⟨rfl, closed⟩ := closing_ran ran₂
  have batched := repairBatches_batched hstore wrote fun e mem =>
    answered e (List.mem_append_left _ mem)
  have deletes := deleteExtras_ran (Task.returned_always.1 erased)
  exact ⟨writing, deleting ++ closing, written, rfl, batched, deletes.closed closed⟩

/-- What a repair comes to, as its history shows it. -/
structure Accounted (store : Store.Memory) (d : Drift) (batchSize sampleSize : Nat)
    (history : List Event) (summary : RepairSummary) : Prop where
  /-- Each id is written, refused or gone, and only one of these. -/
  partition : (history.flatMap taken ++ summary.failures.map (·.documentId) ++
    absent store d.idsToIndex).Perm d.idsToIndex
  distinct : d.idsToIndex.Pairwise (· < ·)
  total : summary.indexed + summary.skipped + summary.failures.length =
    d.missing.length + d.updated.length
  indexed : summary.indexed = (history.flatMap taken).length
  skipped : summary.skipped = (absent store d.idsToIndex).length
  sample : summary.skippedSample = (absent store d.idsToIndex).take sampleSize
  noted : history.filterMap vanished? = absent store d.idsToIndex
  /-- Each refused document has a record, and this one alone says where it came from. -/
  failed : ∀ e ∈ summary.failures, ∃ r, Keyed.find? e.documentId store.records = some r
  refused : ∀ e ∈ summary.failures, Refused history e
  failedSources : ∀ key, key ∈ Keyed.keys summary.failedSources ↔
    ∃ e ∈ summary.failures, Blamed store e.documentId key
  numbered : (history.filterMap report?).map (·.batch) =
    List.range' 1 ((d.idsToIndex.length + max batchSize 1 - 1) / max batchSize 1)
  counted : ∀ r ∈ history.filterMap report?,
    r.totalBatches = (d.idsToIndex.length + max batchSize 1 - 1) / max batchSize 1
  reportedIndexed : ((history.filterMap report?).map (·.indexed)).sum = summary.indexed
  reportedSkipped : ((history.filterMap report?).map (·.skipped)).sum = summary.skipped
  eachSkipped : (history.filterMap report?).map (·.skipped) =
    (chunks (max batchSize 1) d.idsToIndex).map fun ids => (absent store ids).length
  /-- Each extra document is deleted once. -/
  deletions : (history.filterMap deletion?).map (·.1) = d.extra
  extra_ascend : d.extra.Pairwise (· < ·)
  deleted : summary.deleted =
    (history.filterMap deletion?).countP fun deletion => deletion.2 = .deleted
  deleteFailures : summary.deleteFailures = (history.filterMap deletion?).filterMap deleteFailure?
  extra : d.extra.length = summary.deleted +
    (history.filterMap deletion?).countP (fun deletion => deletion.2 = .missing) +
    summary.deleteFailures.length
  /-- No document is deleted before the last batch is reported. -/
  order : ∃ writing deleting, history = writing ++ deleting ∧
    writing.filterMap deletion? = [] ∧ ∀ e ∈ deleting, isWriting e = false

/-- A history of a repair that comes to its end accounts for every id of the drift. -/
theorem accounted_of_returned {d : Drift} {listed indexed : List Freshness}
    {batchSize sampleSize : Nat} {summary : RepairSummary} (hstore : store.Sound)
    (difference : Drift.IsDifference listed indexed d)
    (ran : (repair client batchSize d sampleSize).Returned history summary)
    (answered : ∀ e ∈ history, Answered store e) :
    Accounted store d batchSize sampleSize history summary := by
  obtain ⟨writing, deleting, written, rfl, batched, deletes⟩ :=
    parts_of_returned hstore ran answered
  obtain rfl := deletes.summary
  have positive : 1 ≤ max batchSize 1 := Nat.le_max_right ..
  have flat := flatten_chunks positive d.idsToIndex
  have shown := batched.shows deletes
  have partition := batched.partition
  obtain ⟨failed, refused, failedSources⟩ := batched.refusals
  have indexed : written.indexed = (writing.flatMap taken).length :=
    batched.indexed.trans (Nat.zero_add _)
  have skipped := batched.skipped.trans (Nat.zero_add _)
  have deleted : written.deleted = 0 := batched.deleted
  have deleteFailures : written.deleteFailures = [] := batched.deleteFailures
  rw [batched.vanished] at skipped
  rw [flat] at shown partition skipped
  constructor
  case partition => rwa [shown.written]
  case distinct => exact difference.idsToIndex_ascend
  case total =>
    have sizes := partition.length_eq
    rw [Drift.length_idsToIndex] at sizes
    simp only [List.length_append, List.length_map] at sizes
    dsimp only
    omega
  case indexed => rw [shown.written]; exact indexed
  case skipped => exact skipped
  case sample => rw [batched.sample, batched.vanished, flat]; rfl
  case noted => exact shown.vanished
  case failed => exact failed
  case refused => exact fun e mem => (refused e mem).mono (List.subset_append_left ..)
  case failedSources => exact failedSources
  case numbered => rw [shown.reports, batched.numbered, length_chunks positive]
  case counted => rw [shown.reports, ← length_chunks positive]; exact batched.counted
  case reportedIndexed => rw [shown.reports, batched.reportedIndexed]; exact indexed.symm
  case reportedSkipped =>
    rw [shown.reports, batched.reportedSkipped, sum_absent, flat]
    exact skipped.symm
  case eachSkipped => rw [shown.reports]; exact batched.reportedSkipped
  case deletions => rw [shown.deletions, deletes.ids]
  case extra_ascend => exact difference.extra_ascend
  case deleted => rw [shown.deletions, deleted, Nat.zero_add]
  case deleteFailures => rw [shown.deletions, deleteFailures, List.nil_append]
  case extra =>
    have total := deletes.total
    rw [deleted, deleteFailures, List.length_nil, Nat.zero_add] at total
    rw [shown.deletions, deleted, deleteFailures]
    exact total
  case order => exact ⟨writing, deleting, rfl, batched.deletions, deletes.after⟩

/-- A repair that comes to its end accounts for every id of the drift. -/
theorem repair_accounted {σ : Type} (handler : Job.Handler σ) (s : σ) {store : Store.Memory}
    (hstore : store.Sound) (client : Client) (listed indexed : List Freshness)
    (batchSize sampleSize : Nat)
    (answered : ∀ e ∈ (repair client batchSize (Drift.between listed indexed)
      sampleSize).attempt.trace handler s, Answered store e)
    {summary : RepairSummary}
    (ended : ((repair client batchSize (Drift.between listed indexed)
      sampleSize).attempt.run handler s).1 = .ok summary) :
    Accounted store (Drift.between listed indexed) batchSize sampleSize
      ((repair client batchSize (Drift.between listed indexed) sampleSize).attempt.trace handler s)
      summary := by
  have ran := Job.ran_trace handler
    (repair client batchSize (Drift.between listed indexed) sampleSize).attempt s
  rw [ended] at ran
  exact accounted_of_returned hstore (Drift.isDifference_between listed indexed) ran answered

/-- One document is refused, all others are written. -/
def mixedOutcome (d : Document) : Index.ItemOutcome :=
  if d.id = "c" then .failed ⟨d.id, 400, "mapper_parsing_exception", "bad", none⟩ else .indexed

/-- Answers by which something comes of every id: one is gone and one is refused; and of three
deletions one succeeds, one finds nothing, and one fails. -/
def mixedAnswers : Job.Handler Unit
  | .store call, s => ((Store.Memory.ofIds ["a", "c"]).answer call, s)
  | .index (.bulk documents), s => (.ok (documents.map mixedOutcome), s)
  | .index (.deleteDocument id), s =>
    (if id = "x" then .ok ()
      else if id = "y" then .error (.notFound "document y") else .error (.timeout "late"), s)
  | .index .refresh, s => (.ok (), s)
  | .index _, s => (.error (.message "unexpected"), s)
  | .pause _, s => ((), s)
  | .report _, s => ((), s)
  | .log _, s => ((), s)

theorem answered_mixedAnswers (effect : Effect) (s : Unit) :
    Answered (.ofIds ["a", "c"]) ⟨effect, (mixedAnswers effect s).1⟩ := by
  cases effect with
  | store call => rfl
  | index call =>
    cases call with
    | bulk documents =>
      have pairs : documents.zip (documents.map mixedOutcome) =
          documents.map fun d => (d, mixedOutcome d) := by
        simpa using List.zip_map' (f := id) (g := mixedOutcome) (l := documents)
      refine ⟨List.length_map _, fun s mem e failed => ?_⟩
      rw [pairs] at mem
      obtain ⟨d, -, rfl⟩ := List.mem_map.1 mem
      dsimp only [mixedOutcome] at failed
      split at failed <;> cases failed
      rfl
    | _ => trivial
  | _ => trivial

/-- Of the ids "a", "b" and "c", the first is written, the second is gone and the third is refused;
of the documents "x", "y" and "z", the first is deleted and the last cannot be. -/
def mixedSummary : RepairSummary where
  indexed := 1
  skipped := 1
  skippedSample := ["b"]
  deleted := 1
  deleteFailures := [("z", "index request timed out: late")]
  failures := [⟨"c", 400, "mapper_parsing_exception", "bad", none⟩]
  failedSources := [("unknown", "unknown")]

/-- In batches of two, three ids and three extra documents are accounted for. -/
theorem repair_accounted_mixed :
    Accounted (.ofIds ["a", "c"]) (Drift.between [("a", none), ("b", none), ("c", none)]
      [("x", none), ("y", none), ("z", none)]) 2 1
      ((repair {} 2 (Drift.between [("a", none), ("b", none), ("c", none)]
        [("x", none), ("y", none), ("z", none)]) 1).attempt.trace mixedAnswers ())
      mixedSummary := by
  have ids : (Drift.between [("a", none), ("b", none), ("c", none)]
      [("x", none), ("y", none), ("z", none)]).idsToIndex = ["a", "b", "c"] :=
    Drift.idsToIndex_of_pairwise (by decide +kernel) (by decide)
  refine repair_accounted mixedAnswers () (Store.Memory.sound_ofIds _) {} _ _ 2 1
    (Job.forall_trace
      (fun effect s (_ : True) => ⟨answered_mixedAnswers effect s, trivial⟩) _ trivial) ?_
  unfold repair
  rw [ids]
  decide +kernel

end CatalogSearch.Repair
