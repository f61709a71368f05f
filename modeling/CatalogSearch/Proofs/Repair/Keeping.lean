import CatalogSearch.Proofs.Index.Accepting
import CatalogSearch.Proofs.Repair.Batches
import CatalogSearch.Sync

/-!
# What repairs keep

A repair asks little of the index: to write documents of records that its drift names, to delete
documents that its drift calls extra, and to refresh. Whatever these requests keep, one at a time, a
comparison and its repair keep from beginning to end, however they are interrupted.
-/
namespace CatalogSearch

/-- The drift against a store of an index that lists this. -/
def Drift.against (store : Store.Memory) (listing : List Freshness) : Drift :=
  between (store.all.map fun r => (r.id, r.lastHarvested)) listing

namespace Repair

open Index (Client)

variable {ω : Type} {sem : Semantics ω} {store : Store.Memory} {faulty : Prop} {inv : ω → Prop}
  {drift : Drift} {w : ω}

/-- What a repair of a drift asks for keeps something. Only faults keep documents from being written
and the index from being refreshed. -/
structure Keeps (store : Store.Memory) (faulty : Prop) (sem : Semantics ω) (inv : ω → Prop)
    (drift : Drift) : Prop where
  quiet : Quiet store faulty sem inv
  bulk : ∀ documents : List Document,
    (∀ d ∈ documents, d.id ∈ drift.idsToIndex ∧
      ∃ r, Keyed.find? d.id store.records = some r ∧ d = Document.ofRecord r) →
    ∀ w, inv w → (Task.index (.bulk documents)).Ends sem w
      (fun outcomes w' => outcomes = documents.map (fun _ => .indexed) ∧ inv w')
      fun _ w' => faulty ∧ inv w'
  delete : ∀ id ∈ drift.extra, ∀ w, inv w →
    (Task.index (.deleteDocument id)).Ends sem w (fun _ => inv) fun _ => inv
  refresh : ∀ w, inv w → (Task.index .refresh).Ends sem w (fun _ => inv) fun _ w' => faulty ∧ inv w'

namespace Keeps

theorem repairBatch_ends (keeps : Keeps store faulty sem inv drift) (hstore : store.Sound)
    (client : Client) (sampleSize totalBatches batch : Nat) {ids : List String}
    (summary : RepairSummary) (hids : ∀ id ∈ ids, id ∈ drift.idsToIndex) (hw : inv w) :
    (repairBatch client sampleSize totalBatches batch ids summary).Ends sem w (fun _ => inv)
      fun _ w' => faulty ∧ inv w' := by
  have hanswer : store.answer (.findByIds ids) = .ok (found store ids) := rfl
  have hdocuments : ∀ d ∈ (found store ids).map Document.ofRecord, d.id ∈ drift.idsToIndex ∧
      ∃ r, Keyed.find? d.id store.records = some r ∧ d = Document.ofRecord r := by
    intro d hd
    obtain ⟨r, hr, rfl⟩ := List.mem_map.1 hd
    obtain ⟨id, hid, hfound⟩ := List.mem_filterMap.1 hr
    obtain rfl : r.id = id := hstore.keyed (id, r) (Keyed.mem_of_find? hfound)
    exact ⟨hids r.id hid, r, hfound, rfl⟩
  unfold repairBatch
  refine (keeps.quiet.store_ends hanswer hw).withContext.bind ?_ fun _ _ h => h
  intro records w₁ h
  obtain ⟨rfl, hw₁⟩ := h
  refine (logVanished_ends keeps.quiet.toIdle _ hw₁).always_bind fun _ w₂ hw₂ => ?_
  refine (client.upsertBatch_ends_of_taken (fun _ => keeps.bulk _ hdocuments w₂ hw₂)
    fun _ => hw₂).bind ?_ fun _ _ h => h
  intro total w₃ hw₃
  exact (keeps.quiet.report_ends hw₃).always_bind fun _ w₄ hw₄ => hw₄

theorem repairBatches_ends (keeps : Keeps store faulty sem inv drift) (hstore : store.Sound)
    (client : Client) (sampleSize totalBatches batch : Nat) {batches : List (List String)}
    (summary : RepairSummary) (hids : ∀ id ∈ batches.flatten, id ∈ drift.idsToIndex) (hw : inv w) :
    (repairBatches client sampleSize totalBatches batch batches summary).Ends sem w
      (fun _ => inv) fun _ w' => faulty ∧ inv w' := by
  induction batches generalizing batch summary w with
  | nil => exact hw
  | cons ids rest ih =>
    rw [List.flatten_cons] at hids
    unfold repairBatches
    refine (keeps.repairBatch_ends hstore client sampleSize totalBatches batch summary
      (fun id hid => hids id (List.mem_append_left _ hid)) hw).bind ?_ fun _ _ h => h
    intro summary w' hw'
    exact ih (batch + 1) summary (fun id hid => hids id (List.mem_append_right _ hid)) hw'

theorem deleteExtra_ends (keeps : Keeps store faulty sem inv drift) {id : String}
    (summary : RepairSummary) (hid : id ∈ drift.extra) (hw : inv w) :
    (deleteExtra id summary).Ends sem w fun _ => inv := by
  have hdelete : (Client.deleteById id).Ends sem w fun _ => inv := by
    refine Job.ends_bind.2 ((keeps.delete id hid w hw).attempt (fun _ _ h => h) fun f w' hw' => ?_)
    dsimp only
    split <;> exact hw'
  refine Job.ends_bind.2 (hdelete.mono fun outcome w' hw' => ?_)
  cases outcome with
  | deleted => exact hw'
  | missing => exact Job.ends_bind.2 ((keeps.quiet.log_ends hw').mono fun _ _ h => h)
  | failed reason => exact Job.ends_bind.2 ((keeps.quiet.log_ends hw').mono fun _ _ h => h)

theorem deleteExtras_ends (keeps : Keeps store faulty sem inv drift) {ids : List String}
    (summary : RepairSummary) (hids : ∀ id ∈ ids, id ∈ drift.extra) (hw : inv w) :
    (deleteExtras ids summary).Ends sem w fun _ => inv := by
  induction ids generalizing summary w with
  | nil => exact hw
  | cons id rest ih =>
    refine Job.ends_bind.2 ((keeps.deleteExtra_ends summary (hids id List.mem_cons_self) hw).mono
      fun summary w' hw' => ?_)
    exact ih summary (fun key hkey => hids key (List.mem_cons_of_mem id hkey)) hw'

/-- A repair keeps what its requests keep, and only a fault can end it early. -/
theorem repair_ends (keeps : Keeps store faulty sem inv drift) (hstore : store.Sound)
    (client : Client) (batchSize sampleSize : Nat) (hw : inv w) :
    (repair client batchSize drift sampleSize).Ends sem w (fun _ => inv)
      fun _ w' => faulty ∧ inv w' := by
  have hids : ∀ id ∈ (chunks (max batchSize 1) drift.idsToIndex).flatten,
      id ∈ drift.idsToIndex := by
    rw [flatten_chunks (Nat.le_max_right batchSize 1)]
    exact fun id hid => hid
  unfold repair
  refine (keeps.repairBatches_ends hstore client sampleSize _ 1 {} hids hw).bind ?_ fun _ _ h => h
  intro written w₁ hw₁
  refine (keeps.deleteExtras_ends written (fun id hid => hid) hw₁).always_bind ?_
  intro summary w₂ hw₂
  have hlast (w₃ : ω) (hw₃ : inv w₃) :
      (do
        (client.withTimeoutRetry "refresh" (Task.index .refresh)).withContext
          "Failed to refresh index after repair"
        Task.always (Job.log .info logTarget "repair finished"
          [("indexed", toString summary.indexed), ("skipped", toString summary.skipped),
            ("deleted", toString summary.deleted), ("failed", toString summary.failures.length)])
        return summary : Task RepairSummary).Ends sem w₃ (fun _ => inv)
          fun _ w' => faulty ∧ inv w' := by
    refine (keeps.quiet.withTimeoutRetry_ends client "refresh" keeps.refresh hw₃).withContext.bind
      ?_ fun _ _ h => h
    intro _ w₄ hw₄
    exact (keeps.quiet.log_ends hw₄).always_bind fun _ _ h => h
  dsimp only
  split
  · exact (keeps.quiet.report_ends hw₂).always_bind fun _ w₃ hw₃ => hlast w₃ hw₃
  · exact hlast w₂ hw₂

end Keeps

/-- A comparison keeps what a scan of the index keeps and finds a drift such as the scan shows. -/
theorem computeDrift_keeps {usable : Drift → Prop} (quiet : Quiet store faulty sem inv)
    (client : Client)
    (scan : ∀ w, inv w → (Task.index .scanFreshness).Ends sem w
      (fun listing w' => usable (.against store listing) ∧ inv w') fun _ w' => faulty ∧ inv w')
    (hw : inv w) :
    (computeDrift client).Ends sem w (fun drift w' => usable drift ∧ inv w')
      fun _ w' => faulty ∧ inv w' := by
  have hlisting : store.answer .listing = .ok (store.all.map fun r => (r.id, r.lastHarvested)) :=
    rfl
  unfold computeDrift
  refine (quiet.store_ends hlisting hw).withContext.bind ?_ fun _ _ h => h
  intro listing w₁ h
  obtain ⟨rfl, hw₁⟩ := h
  refine (quiet.withTimeoutRetry_ends client "scan_freshness" scan hw₁).withContext.bind ?_
    fun _ _ h => h
  intro listing w₂ h
  obtain ⟨husable, hw₂⟩ := h
  exact (quiet.log_ends hw₂).always_bind fun _ w₃ hw₃ => ⟨husable, hw₃⟩

/-- A comparison with its repair keeps what the scan and the repair keep. -/
theorem compareAndFix_keeps (usable : Drift → Prop) (quiet : Quiet store faulty sem inv)
    (hstore : store.Sound) (client : Client) (options : SyncOptions) (sampleSize : Nat)
    (scan : ∀ w, inv w → (Task.index .scanFreshness).Ends sem w
      (fun listing w' => usable (.against store listing) ∧ inv w') fun _ w' => faulty ∧ inv w')
    (keeps : ∀ drift, usable drift → Keeps store faulty sem inv drift) (hw : inv w) :
    (Sync.compareAndFix client options sampleSize true).Ends sem w (fun _ => inv)
      fun _ w' => faulty ∧ inv w' := by
  unfold Sync.compareAndFix
  refine (computeDrift_keeps quiet client scan hw).bind ?_ fun _ _ h => h
  intro drift w₁ h
  obtain ⟨husable, hw₁⟩ := h
  rw [if_pos rfl]
  exact ((keeps drift husable).repair_ends hstore client _ sampleSize hw₁).bind
    (fun _ _ h => h) fun _ _ h => h

end Repair

end CatalogSearch
