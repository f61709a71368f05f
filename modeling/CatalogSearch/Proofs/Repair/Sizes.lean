import CatalogSearch.Proofs.Index.Settled
import CatalogSearch.Proofs.Rehearsal.Disturbed
import CatalogSearch.Proofs.Repair.Accounted

/-!
# Repairs with batches of any size

What a repair leaves is settled by the drift, the store and the index it started from. Documents
share their batch, and so the rounds in which it is submitted, with others, but no document is
written or given up because of its company: what waits in one batch goes on waiting in the same
round in any other. Nor is anything told that depends on the batches but the progress, as the
refusals carry the ids they are about.
-/
namespace CatalogSearch.Repair

open Index (Client Memory maxResubmissions)
open Index.Memory (Steady Submitted refusal)
open Index (Named Refused)
open Job (Event)
open Rehearsal (Journal calm)

variable {store : Store.Memory} {w : Scene} {client : Client}

/-- What writing some ids settles in an index. -/
structure Submits (store : Store.Memory) (ids : List String) (before after : RepairSummary)
    (m m' : Memory) : Prop where
  submitted : Submitted maxResubmissions ((found store ids).map Document.ofRecord) m m'
  failures : ∃ errors, after.failures = before.failures ++ errors ∧
    (errors.map (·.documentId)).Perm
      ((present store ids).filter fun id => !m.takes maxResubmissions id)
  existing : m'.mapping.isSome = true ↔ m.mapping.isSome = true ∨ found store ids ≠ []
  deleted : after.deleted = before.deleted

theorem repairBatch_submits (client : Client) (sampleSize totalBatches batch : Nat)
    {ids : List String} (before : RepairSummary) (hstore : store.Sound) (distinct : ids.Nodup)
    (sound : w.index.Sound) :
    (repairBatch client sampleSize totalBatches batch ids before).Ends (inMemory store False) w
      (fun after w' => Submits store ids before after w.index w'.index) fun _ _ => False := by
  have answer : store.answer (.findByIds ids) = .ok (found store ids) := rfl
  unfold repairBatch
  refine (Task.ends_store answer).withContext.bind ?_ fun _ _ h => h.1
  rintro records w' ⟨rfl, rfl⟩
  refine (logVanished_ends (idle_inMemory (· = w')) _ rfl).always_bind ?_
  rintro _ _ rfl
  have known : ((found store ids).map Document.ofRecord).map (·.id) = present store ids := by
    rw [Document.ids_ofRecord, ids_found hstore]
    rfl
  refine (client.upsertBatch_submits (distinct_found hstore distinct) sound).bind ?_
    fun _ _ h => h
  rintro result w'' ⟨counts, submitted, existing⟩
  refine Task.ends_bind.2 (Task.ends_always.2 (Job.ends_report ?_))
  refine ⟨submitted, ⟨result.errors, rfl, ?_⟩, by simpa using existing, rfl⟩
  rw [← known, List.filter_map]
  exact counts.errors

/-- Batches in a row submit the ids of all. -/
theorem Submits.append {ids ids' : List String} {before middle after : RepairSummary}
    {m m' m'' : Memory} (hstore : store.Sound) (h : Submits store ids before middle m m')
    (h' : Submits store ids' middle after m' m'') (disjoint : ids.Disjoint ids') :
    Submits store (ids ++ ids') before after m m'' := by
  have apart : ∀ key ∈ ((found store ids).map Document.ofRecord).map (·.id),
      key ∉ ((found store ids').map Document.ofRecord).map (·.id) := fun key mem mem' =>
    disjoint ((mem_ids_found hstore).1 mem).1 ((mem_ids_found hstore).1 mem').1
  have all : found store (ids ++ ids') = found store ids ++ found store ids' :=
    List.filterMap_append
  constructor
  case submitted =>
    rw [all, List.map_append]
    exact h.submitted.append h'.submitted apart
  case failures =>
    obtain ⟨errors, failures, perm⟩ := h.failures
    obtain ⟨errors', failures', perm'⟩ := h'.failures
    refine ⟨errors ++ errors', by rw [failures', failures, List.append_assoc], ?_⟩
    have later : (present store ids').filter (fun id => !m'.takes maxResubmissions id) =
        (present store ids').filter fun id => !m.takes maxResubmissions id := by
      refine List.filter_congr fun id mem => ?_
      rw [Index.Memory.takes_congr h.submitted.rejected (h.submitted.waits_of_not_mem ?_)]
      intro submitted
      exact disjoint ((mem_ids_found hstore).1 submitted).1 (List.mem_filter.1 mem).1
    rw [later] at perm'
    rw [List.map_append, present, List.filter_append, List.filter_append]
    exact perm.append perm'
  case existing =>
    rw [h'.existing, h.existing, all, or_assoc]
    simp only [ne_eq, List.append_eq_nil_iff, not_and_or]
  case deleted => rw [h'.deleted, h.deleted]

theorem repairBatches_submits (client : Client) (sampleSize totalBatches first : Nat)
    {batches : List (List String)} (before : RepairSummary) (hstore : store.Sound)
    (distinct : batches.flatten.Nodup) (sound : w.index.Sound) :
    (repairBatches client sampleSize totalBatches first batches before).Ends
      (inMemory store False) w
      (fun after w' => Submits store batches.flatten before after w.index w'.index ∧
        w'.index.Sound)
      fun _ _ => False := by
  induction batches generalizing first before w with
  | nil =>
    refine ⟨⟨.nil _ _, ⟨[], (List.append_nil _).symm, .nil⟩, ?_, rfl⟩, sound⟩
    simp [found]
  | cons ids rest ih =>
    obtain ⟨one, others, disjoint⟩ := List.nodup_append'.1 distinct
    unfold repairBatches
    refine ((repairBatch_submits client sampleSize totalBatches first before hstore one
      sound).sound sound).bind ?_ fun _ _ h => h.1
    rintro middle w' ⟨h, sound'⟩
    refine (ih (first + 1) middle others sound').mono ?_ fun _ _ h => h
    rintro after w'' ⟨h', sound''⟩
    exact ⟨h.append hstore h' disjoint, sound''⟩

/-- An effect after which an index is steady. -/
def KeepsSteady (store : Store.Memory) (effect : Effect) : Prop :=
  ∀ w answer w', inMemory store False effect w answer w' → Steady w.index w'.index

theorem keepsSteady_index {call : Index.Call}
    (steady : ∀ m : Memory, Steady m (m.answer call).2) : KeepsSteady store (.index call) := by
  intro w answer w' step
  obtain ⟨-, rfl⟩ := step.resolve_right fun struck => struck.1.1
  exact steady w.index

theorem keepsSteady_log (entry : Log.Entry) : KeepsSteady store (.log entry) := by
  rintro w answer w' rfl
  exact .refl _

theorem bulky_keepsSteady : Index.Bulky (KeepsSteady store) where
  bulk documents := keepsSteady_index (Index.Memory.steady_bulk documents)
  note entry _ := keepsSteady_log entry
  pause span := by
    rintro w answer w' rfl
    exact .refl _

theorem confined_repairBatches (client : Client) (sampleSize totalBatches first : Nat)
    (batches : List (List String)) (summary : RepairSummary) :
    (repairBatches client sampleSize totalBatches first batches summary).Confined
      (KeepsSteady store) := by
  have noted (ids : List String) : (logVanished ids).Confined (KeepsSteady store) := by
    induction ids with
    | nil => trivial
    | cons id rest ih =>
      exact Job.confined_bind (Job.confined_perform (keepsSteady_log _)) fun _ => ih
  have fetched (call : Store.Call) : (Task.store call).Confined (KeepsSteady store) := by
    refine Job.confined_perform ?_
    rintro w answer w' ⟨rfl, -⟩
    exact .refl _
  have reported (event : Progress) : (Job.report event).Confined (KeepsSteady store) := by
    refine Job.confined_perform ?_
    rintro w answer w' rfl
    exact .refl _
  induction batches generalizing first summary with
  | nil => exact Task.confined_pure summary
  | cons ids rest ih =>
    refine Task.confined_bind ?_ fun middle => ih (first + 1) middle
    refine Task.confined_bind (fetched _).withContext fun records => ?_
    refine Task.confined_bind (Task.confined_always (noted _)) fun _ => ?_
    refine Task.confined_bind (bulky_keepsSteady.upsertBatch client _) fun result => ?_
    exact Task.confined_bind (Task.confined_always (reported _)) fun _ => Task.confined_pure _

theorem confined_deleteExtras (ids : List String) (summary : RepairSummary) :
    (deleteExtras ids summary).Confined (KeepsSteady store) := by
  have deleted (id : String) : (Client.deleteById id).Confined (KeepsSteady store) := by
    refine Job.confined_bind (Task.confined_index (keepsSteady_index
      (Index.Memory.steady_delete id))) fun outcome => ?_
    cases outcome with
    | ok value => trivial
    | error f =>
      dsimp only
      split <;> trivial
  induction ids generalizing summary with
  | nil => trivial
  | cons id rest ih =>
    refine Job.confined_bind (Job.confined_bind (deleted id) fun outcome => ?_) ih
    cases outcome with
    | deleted => trivial
    | missing => exact Job.confined_bind (Job.confined_perform (keepsSteady_log _)) fun _ => trivial
    | failed reason =>
      exact Job.confined_bind (Job.confined_perform (keepsSteady_log _)) fun _ => trivial

/-- What a repair leaves of an index before it refreshes it. -/
structure Left (store : Store.Memory) (d : Drift) (m m' : Memory) (summary : RepairSummary) :
    Prop where
  sound : m'.Sound
  steady : Steady m m'
  existing : m'.mapping.isSome = true ↔ m.mapping.isSome = true ∨ found store d.idsToIndex ≠ []
  failures : (summary.failures.map (·.documentId)).Perm
    ((present store d.idsToIndex).filter fun id => !m.takes maxResubmissions id)
  written : ∃ middle : Memory,
    Submitted maxResubmissions ((found store d.idsToIndex).map Document.ofRecord) m middle ∧
    (∀ id ∈ d.extra, Keyed.find? id m'.documents = none) ∧
    (∀ id ∉ d.extra, Keyed.find? id m'.documents = Keyed.find? id middle.documents) ∧
    m'.throttled = middle.throttled ∧
    summary.deleted = (d.extra.filter fun id => Keyed.contains id middle.documents).length

/-- Without faults, a repair succeeds just if there is an index to refresh after it. -/
theorem repair_left (client : Client) (batchSize sampleSize : Nat) {d : Drift}
    (hstore : store.Sound) (distinct : d.idsToIndex.Nodup) (extra : d.extra.Nodup)
    (sound : w.index.Sound) :
    (repair client batchSize d sampleSize).Ends (inMemory store False) w
      (fun summary w' => ∃ m, Left store d w.index m summary ∧ m.mapping.isSome = true ∧
        w'.index = { m with refreshes := m.refreshes + 1 })
      (fun _ w' => ∃ summary, Left store d w.index w'.index summary ∧
        w'.index.mapping = none) := by
  have flat : (chunks (max batchSize 1) d.idsToIndex).flatten = d.idsToIndex :=
    flatten_chunks (Nat.le_max_right batchSize 1) _
  have keeps (effect : Effect) (w₁ : Scene) (answer : effect.Answer) (w₂ : Scene)
      (keep : KeepsSteady store effect) (step : inMemory store False effect w₁ answer w₂)
      (steady : Steady w.index w₁.index) : Steady w.index w₂.index :=
    steady.trans (keep w₁ answer w₂ step)
  have wrote (total : Nat) : (repairBatches client sampleSize total 1
      (chunks (max batchSize 1) d.idsToIndex) {}).Ends (inMemory store False) w
      (fun written w₁ => (Submits store d.idsToIndex {} written w.index w₁.index ∧
        w₁.index.Sound) ∧ Steady w.index w₁.index)
      fun _ _ => False := by
    generalize chunks (max batchSize 1) d.idsToIndex = batches at flat ⊢
    rw [← flat] at distinct ⊢
    exact ((repairBatches_submits client sampleSize total 1 {} hstore distinct sound).and
      ((confined_repairBatches client sampleSize total 1 batches {}).ends keeps (.refl _))).mono
      (fun _ _ h => h) fun _ _ h => h.1
  have erased (written : RepairSummary) (w₁ : Scene)
      (h : (Submits store d.idsToIndex {} written w.index w₁.index ∧ w₁.index.Sound) ∧
        Steady w.index w₁.index) :
      (deleteExtras d.extra written).Ends (inMemory store False) w₁ fun summary w₂ =>
        Left store d w.index w₂.index summary := by
    obtain ⟨⟨submits, sound₁⟩, steady₁⟩ := h
    refine (((deleteExtras_ends written extra sound₁).keeps inMemory_sound sound₁).and
      ((confined_deleteExtras d.extra written).ends keeps steady₁)).mono ?_
    rintro summary w₂ ⟨⟨deleted, sound₂⟩, steady₂⟩
    obtain ⟨errors, failures, perm⟩ := submits.failures
    refine ⟨sound₂, steady₂, by rw [deleted.mapping]; exact submits.existing, ?_, w₁.index,
      submits.submitted, deleted.gone, deleted.kept, deleted.alike.throttled, ?_⟩
    · rw [deleted.failures, failures]
      exact perm
    · rw [deleted.deleted, submits.deleted]
      exact Nat.zero_add _
  refine (repair_stages client wrote erased).mono (fun summary w' h => ?_) fun _ w' h => ?_
  · obtain ⟨w₂, left, existing, same⟩ := h
    exact ⟨w₂.index, left, existing, same⟩
  · obtain ⟨summary, w₂, left, absent, same⟩ := h
    rw [same]
    exact ⟨summary, left, absent⟩

/-- Two indexes that hold the same and will take the same. -/
structure SameIndex (m₁ m₂ : Memory) : Prop where
  documents : m₁.documents = m₂.documents
  throttled : ∀ id, Keyed.find? id m₁.throttled = Keyed.find? id m₂.throttled
  rejected : m₁.rejected = m₂.rejected
  refreshes : m₁.refreshes = m₂.refreshes

/-- The drift settles what is left of an index. -/
theorem Left.same {d : Drift} {m m₁ m₂ : Memory} {s₁ s₂ : RepairSummary}
    (h₁ : Left store d m m₁ s₁) (h₂ : Left store d m m₂ s₂) :
    SameIndex m₁ m₂ ∧ s₁.deleted = s₂.deleted := by
  obtain ⟨middle₁, submitted₁, gone₁, kept₁, throttled₁, deleted₁⟩ := h₁.written
  obtain ⟨middle₂, submitted₂, gone₂, kept₂, throttled₂, deleted₂⟩ := h₂.written
  have found (key : String) := (submitted₁.unique submitted₂ key).1
  have waits (key : String) := (submitted₁.unique submitted₂ key).2
  refine ⟨⟨?_, fun id => ?_, ?_, ?_⟩, ?_⟩
  · refine Keyed.eq_of_find?_eq h₁.sound.ascending h₂.sound.ascending fun key => ?_
    by_cases extra : key ∈ d.extra
    · rw [gone₁ key extra, gone₂ key extra]
    · rw [kept₁ key extra, kept₂ key extra, found]
  · have same : m₁.waits id = m₂.waits id := by
      rw [Index.Memory.waits, throttled₁, Index.Memory.waits, throttled₂]
      exact waits id
    rw [Index.Memory.find?_throttled, Index.Memory.find?_throttled, same, h₁.steady.waiting,
      h₂.steady.waiting]
  · rw [h₁.steady.rejected, h₂.steady.rejected]
  · rw [h₁.steady.refreshes, h₂.steady.refreshes]
  · rw [deleted₁, deleted₂]
    exact congrArg List.length (List.filter_congr fun id _ => by
      rw [Keyed.contains, Keyed.contains, found])

/-- A store and an index in memory answer with refusals that the index had from the start, and never
fail to delete a document that is there. -/
def Faithful (store : Store.Memory) (rejected : List (String × ItemError)) : Event → Prop
  | ⟨.store call, answer⟩ => answer = store.answer call
  | ⟨.index (.bulk documents), .ok outcomes⟩ => Named documents outcomes ∧
    ∀ e, .failed e ∈ outcomes → e = refusal rejected e.documentId
  | ⟨.index (.deleteDocument _), answer⟩ => ∀ f, answer = .error f → f.isNotFound = true
  | _ => True

theorem Faithful.answered {rejected : List (String × ItemError)} {e : Event}
    (h : Faithful store rejected e) : Answered store e := by
  unfold Answered
  split
  · exact h
  · exact h.1
  · trivial

theorem answer_rejected (call : Index.Call) (m : Memory) :
    (m.answer call).2.rejected = m.rejected := by
  have ifExists {α : Type} {value : α} {after : Memory} (same : after.rejected = m.rejected) :
      (m.ifExists value after).2.rejected = m.rejected := by
    unfold Memory.ifExists
    split
    · exact same
    · rfl
  cases call with
  | bulk documents => exact (Index.Memory.steady_bulk documents m).rejected
  | deleteDocument id => exact (Index.Memory.steady_delete id m).rejected
  | create mapping =>
    simp only [Memory.answer]
    split <;> rfl
  | mapping =>
    simp only [Memory.answer]
    split <;> rfl
  | «exists» => rfl
  | _ => exact ifExists rfl

theorem faithful_step {effect : Effect} {w w' : Scene} {answer : effect.Answer}
    (step : inMemory store False effect w answer w') (sound : w.index.Sound) :
    Faithful store w.index.rejected ⟨effect, answer⟩ ∧ w'.index.rejected = w.index.rejected := by
  cases effect with
  | store call =>
    obtain ⟨rfl, known⟩ := step
    exact ⟨known.resolve_right fun struck => struck.1, rfl⟩
  | index call =>
    obtain ⟨rfl, rfl⟩ := step.resolve_right fun struck => struck.1.1
    refine ⟨?_, answer_rejected call w.index⟩
    cases call with
    | bulk documents =>
      exact Index.Memory.writeAll_named documents fun r mem => (sound.refusals r mem).1
    | deleteDocument id =>
      intro f failed
      simp only [Memory.answer] at failed
      split at failed
      · cases failed
      · obtain rfl := Except.error.inj failed
        rfl
    | _ => trivial
  | pause span => exact ⟨trivial, step ▸ rfl⟩
  | report event => exact ⟨trivial, step ▸ rfl⟩
  | log entry => exact ⟨trivial, step ▸ rfl⟩

/-- In a calm rehearsal, every answer is faithful. -/
theorem faithful_calm {α : Type} (job : Job α) (store : Store.Memory) {index : Memory}
    (journal : Journal) (sound : index.Sound) :
    ∀ e ∈ job.trace Rehearsal.Stage.handler (calm store index journal),
      Faithful store index.rejected e := by
  have step (effect : Effect) (s : Rehearsal.Stage) (h : ∃ w, Rehearsal.Shows store s w ∧
      w.index.Sound ∧ w.index.rejected = index.rejected) :
      Faithful store index.rejected ⟨effect, (Rehearsal.Stage.handler effect s).1⟩ ∧
        ∃ w, Rehearsal.Shows store (Rehearsal.Stage.handler effect s).2 w ∧
          w.index.Sound ∧ w.index.rejected = index.rejected := by
    obtain ⟨w, shown, sound, rejected⟩ := h
    obtain ⟨w', step, shown'⟩ := Rehearsal.calm_follows store effect s w shown
    obtain ⟨faithful, same⟩ := faithful_step step sound
    rw [rejected] at faithful same
    exact ⟨faithful, w', shown', inMemory_sound effect w _ w' step sound, same⟩
  exact Job.forall_trace step job ⟨⟨index, journal.events⟩, ⟨journal, rfl, rfl⟩, sound, rfl⟩

/-- What the summary of a repair tells, whatever the size of its batches. -/
structure Told (store : Store.Memory) (d : Drift) (sampleSize : Nat)
    (rejected : List (String × ItemError)) (summary : RepairSummary) : Prop where
  indexed : summary.indexed + summary.failures.length = (present store d.idsToIndex).length
  skipped : summary.skipped = (absent store d.idsToIndex).length
  sample : summary.skippedSample = (absent store d.idsToIndex).take sampleSize
  refusals : ∀ e ∈ summary.failures, e = refusal rejected e.documentId
  deleteFailures : summary.deleteFailures = []
  failedSources : ∀ key, key ∈ Keyed.keys summary.failedSources ↔
    ∃ e ∈ summary.failures, Blamed store e.documentId key

theorem Accounted.told {d : Drift} {batchSize sampleSize : Nat} {history : List Event}
    {summary : RepairSummary} {rejected : List (String × ItemError)}
    (h : Accounted store d batchSize sampleSize history summary)
    (faithful : ∀ e ∈ history, Faithful store rejected e) :
    Told store d sampleSize rejected summary where
  indexed := by
    have ids := h.partition.length_eq
    have split := (List.filter_append_perm (fun id => Keyed.contains id store.records)
      d.idsToIndex).length_eq
    simp only [List.length_append, List.length_map, ← h.indexed] at ids
    rw [List.length_append] at split
    exact Nat.add_right_cancel (ids.trans split.symm)
  skipped := h.skipped
  sample := h.sample
  refusals e mem := by
    obtain ⟨documents, outcomes, asked, failed⟩ := h.refused e mem
    exact (faithful _ asked).2 e failed
  deleteFailures := by
    rw [h.deleteFailures, List.filterMap_filterMap, List.filterMap_eq_nil_iff]
    rintro ⟨effect, answer⟩ mem
    cases shown : deletion? ⟨effect, answer⟩ with
    | none => rfl
    | some deletion =>
      unfold deletion? at shown
      split at shown
      · next id answer same =>
        obtain rfl := Option.some.inj shown
        rw [same] at mem
        cases answer with
        | ok value => rfl
        | error f =>
          have gone : f.isNotFound = true := faithful _ mem f rfl
          simp [ending, gone, deleteFailure?]
      · cases shown
  failedSources := h.failedSources

/-- Two summaries that tell the same, the refusals perhaps in another order. -/
structure SameSummary (s₁ s₂ : RepairSummary) : Prop where
  indexed : s₁.indexed = s₂.indexed
  skipped : s₁.skipped = s₂.skipped
  skippedSample : s₁.skippedSample = s₂.skippedSample
  deleted : s₁.deleted = s₂.deleted
  deleteFailures : s₁.deleteFailures = s₂.deleteFailures
  failures : s₁.failures.Perm s₂.failures
  failedSources : ∀ key, key ∈ Keyed.keys s₁.failedSources ↔ key ∈ Keyed.keys s₂.failedSources

/-- A refusal is known by its id. -/
theorem Told.failures_eq {d : Drift} {sampleSize : Nat} {rejected : List (String × ItemError)}
    {summary : RepairSummary} (h : Told store d sampleSize rejected summary) :
    summary.failures = (summary.failures.map (·.documentId)).map (refusal rejected) := by
  rw [List.map_map]
  refine (List.map_id _).symm.trans (List.map_congr_left fun e mem => ?_)
  exact h.refusals e mem

theorem Told.same {d : Drift} {sampleSize : Nat} {rejected : List (String × ItemError)}
    {s₁ s₂ : RepairSummary} (h₁ : Told store d sampleSize rejected s₁)
    (h₂ : Told store d sampleSize rejected s₂)
    (refused : (s₁.failures.map (·.documentId)).Perm (s₂.failures.map (·.documentId)))
    (deleted : s₁.deleted = s₂.deleted) : SameSummary s₁ s₂ := by
  have failures : s₁.failures.Perm s₂.failures := by
    rw [h₁.failures_eq, h₂.failures_eq]
    exact refused.map _
  constructor
  case indexed =>
    have total₁ := h₁.indexed
    have total₂ := h₂.indexed
    have same := failures.length_eq
    omega
  case skipped => rw [h₁.skipped, h₂.skipped]
  case skippedSample => rw [h₁.sample, h₂.sample]
  case deleted => exact deleted
  case deleteFailures => rw [h₁.deleteFailures, h₂.deleteFailures]
  case failures => exact failures
  case failedSources =>
    intro key
    rw [h₁.failedSources, h₂.failedSources]
    exact exists_congr fun e => and_congr_left fun _ => failures.mem_iff

/-- How a repair in a calm rehearsal ends. -/
theorem run_repair (client : Client) (batchSize sampleSize : Nat) {d : Drift}
    {listed indexed : List Freshness} {index : Memory} (journal : Journal)
    (difference : Drift.IsDifference listed indexed d) (hstore : store.Sound)
    (sound : index.Sound) :
    ∃ outcome index' journal',
      (calm store index journal).run (repair client batchSize d sampleSize) =
        (outcome, calm store index' journal') ∧
      ((∃ f summary, outcome = .error f ∧ Left store d index index' summary ∧
          index'.mapping = none) ∨
        ∃ summary m, outcome = .ok summary ∧ Left store d index m summary ∧
          m.mapping.isSome = true ∧ index' = { m with refreshes := m.refreshes + 1 } ∧
          Told store d sampleSize index.rejected summary) := by
  have distinct : d.idsToIndex.Nodup := difference.idsToIndex_ascend.nodup
  have extra : d.extra.Nodup := difference.extra_ascend.nodup
  obtain ⟨w', ⟨journal', stage, events⟩, ended⟩ := Job.Ends.run (Rehearsal.calm_follows store)
    ⟨journal, rfl, rfl⟩
    (repair_left (w := ⟨index, journal.events⟩) client batchSize sampleSize hstore distinct extra
      sound)
  have faithful := faithful_calm (repair client batchSize d sampleSize).attempt store journal sound
  have ran := Job.ran_trace Rehearsal.Stage.handler
    (repair client batchSize d sampleSize).attempt (calm store index journal)
  change ∃ outcome index' journal', (repair client batchSize d sampleSize).attempt.run
    Rehearsal.Stage.handler (calm store index journal) = (outcome, calm store index' journal') ∧ _
  cases came : (repair client batchSize d sampleSize).attempt.run Rehearsal.Stage.handler
    (calm store index journal) with
  | mk outcome after =>
    rw [came] at ended stage ran
    subst stage
    refine ⟨outcome, w'.index, journal', rfl, ?_⟩
    cases outcome with
    | error f =>
      obtain ⟨summary, left, absent⟩ := ended
      exact .inl ⟨f, summary, rfl, left, absent⟩
    | ok summary =>
      obtain ⟨m, left, existing, same⟩ := ended
      have accounted := accounted_of_returned hstore difference ran fun e mem =>
        (faithful e mem).answered
      exact .inr ⟨summary, m, rfl, left, existing, same, accounted.told faithful⟩

/-- Two repairs of one drift, started alike, do the same whatever the size of their batches. -/
theorem repair_any_batchSize (client : Client) (batchSize₁ batchSize₂ sampleSize : Nat)
    {store : Store.Memory} (hstore : store.Sound) {index : Memory} (hindex : index.Sound)
    (journal : Journal) (listed indexed : List Freshness) :
    ∃ outcome₁ index₁ journal₁ outcome₂ index₂ journal₂,
      (calm store index journal).run
          (repair client batchSize₁ (Drift.between listed indexed) sampleSize) =
        (outcome₁, calm store index₁ journal₁) ∧
      (calm store index journal).run
          (repair client batchSize₂ (Drift.between listed indexed) sampleSize) =
        (outcome₂, calm store index₂ journal₂) ∧
      SameIndex index₁ index₂ ∧
      ((∃ f₁ f₂, outcome₁ = .error f₁ ∧ outcome₂ = .error f₂) ∨
        ∃ s₁ s₂, outcome₁ = .ok s₁ ∧ outcome₂ = .ok s₂ ∧ SameSummary s₁ s₂) := by
  have difference := Drift.isDifference_between listed indexed
  obtain ⟨outcome₁, index₁, journal₁, run₁, end₁⟩ :=
    run_repair client batchSize₁ sampleSize journal difference hstore hindex
  obtain ⟨outcome₂, index₂, journal₂, run₂, end₂⟩ :=
    run_repair client batchSize₂ sampleSize journal difference hstore hindex
  refine ⟨outcome₁, index₁, journal₁, outcome₂, index₂, journal₂, run₁, run₂, ?_⟩
  obtain ⟨f₁, s₁, rfl, left₁, absent₁⟩ | ⟨s₁, m₁, rfl, left₁, existing₁, rfl, told₁⟩ := end₁ <;>
    obtain ⟨f₂, s₂, rfl, left₂, absent₂⟩ | ⟨s₂, m₂, rfl, left₂, existing₂, rfl, told₂⟩ := end₂
  · exact ⟨(left₁.same left₂).1, .inl ⟨f₁, f₂, rfl, rfl⟩⟩
  · have existing := left₁.existing.2 (left₂.existing.1 existing₂)
    simp [absent₁] at existing
  · have existing := left₂.existing.2 (left₁.existing.1 existing₁)
    simp [absent₂] at existing
  · obtain ⟨same, deleted⟩ := left₁.same left₂
    refine ⟨⟨same.documents, same.throttled, same.rejected, ?_⟩, .inr ⟨s₁, s₂, rfl, rfl, ?_⟩⟩
    · exact congrArg (· + 1) same.refreshes
    · exact told₁.same told₂ (left₁.failures.trans left₂.failures.symm) deleted

/-- An index that refuses one document, turns one away once, and turns one away again and again. -/
def pickyIndex : Memory :=
  (({} : Memory).reject "b" "t" "r" |>.throttle "a" 1).throttle "c" 9

/-- One by one or all at once, two documents are written, one is refused and one is given up. -/
theorem repair_any_batchSize_one_four :
    ∃ s₁ s₂ : RepairSummary,
      ((calm (.ofIds ["a", "b", "c", "d"]) pickyIndex {}).run
        (repair {} 1 (Drift.between
          [("a", none), ("b", none), ("c", none), ("d", none), ("e", none)]
          [("f", none)]) 1)).1 = .ok s₁ ∧
      ((calm (.ofIds ["a", "b", "c", "d"]) pickyIndex {}).run
        (repair {} 4 (Drift.between
          [("a", none), ("b", none), ("c", none), ("d", none), ("e", none)]
          [("f", none)]) 1)).1 = .ok s₂ ∧
      SameSummary s₁ s₂ ∧
      s₁ = {
        indexed := 2
        skipped := 1
        skippedSample := ["e"]
        failures := [⟨"b", 400, "t", "r", none⟩, Index.Memory.throttleError "c"]
        failedSources := [("unknown", "unknown")] } := by
  have ids : (Drift.between [("a", none), ("b", none), ("c", none), ("d", none), ("e", none)]
      [("f", none)]).idsToIndex = ["a", "b", "c", "d", "e"] :=
    Drift.idsToIndex_of_pairwise (by decide +kernel) (by decide)
  obtain ⟨outcome₁, index₁, journal₁, outcome₂, index₂, journal₂, run₁, run₂, -, ends⟩ :=
    repair_any_batchSize {} 1 4 1 (Store.Memory.sound_ofIds ["a", "b", "c", "d"])
      (((Index.Memory.sound_initial.reject "b" "t" "r").throttle "a" 1).throttle "c" 9) {}
      [("a", none), ("b", none), ("c", none), ("d", none), ("e", none)] [("f", none)]
  have told : ((calm (.ofIds ["a", "b", "c", "d"]) pickyIndex {}).run
      (repair {} 1 (Drift.between
        [("a", none), ("b", none), ("c", none), ("d", none), ("e", none)]
        [("f", none)]) 1)).1 = .ok {
          indexed := 2
          skipped := 1
          skippedSample := ["e"]
          failures := [⟨"b", 400, "t", "r", none⟩, Index.Memory.throttleError "c"]
          failedSources := [("unknown", "unknown")] } := by
    unfold repair
    rw [ids]
    decide +kernel
  obtain ⟨f₁, f₂, rfl, rfl⟩ | ⟨s₁, s₂, rfl, rfl, same⟩ := ends
  · cases (congrArg Prod.fst run₁).symm.trans told
  · exact ⟨s₁, s₂, congrArg Prod.fst run₁, congrArg Prod.fst run₂, same,
      Except.ok.inj ((congrArg Prod.fst run₁).symm.trans told)⟩

end CatalogSearch.Repair
