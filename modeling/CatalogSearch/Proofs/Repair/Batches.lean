import CatalogSearch.Proofs.Index.Schema
import CatalogSearch.Proofs.Index.Upsert
import CatalogSearch.Proofs.Store.Pages
import CatalogSearch.Repair

/-!
# The batches and deletions of a repair

Batches cut a list of ids without loss. Each writes the documents of the records that the store
still has, so that all batches together come to one write of all of them, however they are cut.
Deletions remove exactly the documents that they name.
-/
namespace CatalogSearch.Repair

open Index (Client Wrote)
open Index.Memory (Tried)

variable {store : Store.Memory} {faulty : Prop} {w : Scene}

theorem flatten_chunksOf {α : Type} {size : Nat} (hsize : 1 ≤ size) :
    ∀ (fuel : Nat) (items : List α), items.length ≤ fuel →
      (chunksOf size fuel items).flatten = items
  | 0, items, hfuel => by
    obtain rfl := List.length_eq_zero_iff.1 (Nat.le_zero.1 hfuel)
    rfl
  | fuel + 1, [], _ => rfl
  | fuel + 1, item :: rest, hfuel => by
    have hrest : ((item :: rest).drop size).length ≤ fuel := by
      simp only [List.length_drop, List.length_cons] at hfuel ⊢
      omega
    rw [chunksOf, List.flatten_cons, flatten_chunksOf hsize fuel _ hrest, List.take_append_drop]
    simp

/-- Cutting a list loses nothing and keeps the order. -/
theorem flatten_chunks {α : Type} {size : Nat} (hsize : 1 ≤ size) (items : List α) :
    (chunks size items).flatten = items :=
  flatten_chunksOf hsize items.length items (Nat.le_refl _)

/-- The records that the store has under some ids. -/
def found (store : Store.Memory) (ids : List String) : List Record :=
  ids.filterMap fun id => Keyed.find? id store.records

theorem ids_found (hstore : store.Sound) (ids : List String) :
    (found store ids).map (·.id) = ids.filter fun id => Keyed.contains id store.records := by
  induction ids with
  | nil => rfl
  | cons id rest ih =>
    cases hfound : Keyed.find? id store.records with
    | none => simpa [found, Keyed.contains, hfound] using ih
    | some r =>
      have hid : r.id = id := hstore.keyed (id, r) (Keyed.mem_of_find? hfound)
      simpa [found, Keyed.contains, hfound, hid] using ih

/-- A document is written for each id that the store still has. -/
theorem mem_ids_found (hstore : store.Sound) {ids : List String} {key : String} :
    key ∈ ((found store ids).map Document.ofRecord).map (·.id) ↔
      key ∈ ids ∧ Keyed.contains key store.records = true := by
  rw [Document.ids_ofRecord, ids_found hstore, List.mem_filter]

/-- Different ids have different documents. -/
theorem distinct_found (hstore : store.Sound) {ids : List String} (distinct : ids.Nodup) :
    (((found store ids).map Document.ofRecord).map (·.id)).Nodup := by
  rw [Document.ids_ofRecord, ids_found hstore]
  exact distinct.sublist List.filter_sublist

/-- An id has vanished if the store has no record under it. -/
theorem vanished_eq (hstore : store.Sound) (ids : List String) :
    (ids.filter fun id => !(found store ids).any fun r => r.id = id) =
      ids.filter fun id => !Keyed.contains id store.records := by
  refine List.filter_congr fun id hid => congrArg (!·) ?_
  have hmem : id ∈ (found store ids).map (·.id) ↔ Keyed.contains id store.records = true := by
    rw [ids_found hstore, List.mem_filter]
    exact and_iff_right hid
  rw [Bool.eq_iff_iff, ← hmem]
  simp

theorem logVanished_ends {ω : Type} {sem : Semantics ω} {inv : ω → Prop} {w : ω}
    (idle : Idle sem inv) (ids : List String) (hw : inv w) :
    (logVanished ids).Ends sem w fun _ => inv := by
  induction ids generalizing w with
  | nil => exact hw
  | cons id rest ih => exact Job.ends_bind.2 ((idle.log_ends hw).mono fun _ _ h => ih h)

/-- What writing some ids adds to a summary and leaves in the index. -/
structure BatchWrote (store : Store.Memory) (ids : List String) (before after : RepairSummary)
    (errors : List ItemError) (m m' : Index.Memory) : Prop where
  indexed : ∃ succeeded, after.indexed = before.indexed + succeeded ∧
    Wrote False ((found store ids).map Document.ofRecord) succeeded
      (errors.map (·.documentId)) m m'
  failures : after.failures = before.failures ++ errors
  skipped : after.skipped =
    before.skipped + (ids.filter fun id => !Keyed.contains id store.records).length
  deleted : after.deleted = before.deleted

/-- One batch writes the documents of the records that are still there. -/
theorem repairBatch_ends (client : Client) (sampleSize totalBatches batch : Nat)
    {ids : List String} (summary : RepairSummary) (hstore : store.Sound) (distinct : ids.Nodup)
    (sound : w.index.Sound) :
    (repairBatch client sampleSize totalBatches batch ids summary).Ends (inMemory store faulty) w
      (fun after w' => ∃ errors, BatchWrote store ids summary after errors w.index w'.index)
      (fun _ _ => faulty) := by
  have hanswer : store.answer (.findByIds ids) = .ok (found store ids) := rfl
  unfold repairBatch
  refine (Task.ends_store hanswer).withContext.bind ?_ fun _ _ h => h.1
  intro records w' h
  obtain ⟨rfl, rfl⟩ := h
  refine Task.ends_bind.2 (Task.ends_always.2 (logVanished_ends (idle_inMemory _) _ ?_))
  refine (client.upsertBatch_ends (distinct_found hstore distinct) sound).bind ?_
    fun _ _ h => h.1
  intro total w'' h
  obtain ⟨-, hwrote, -⟩ := h
  refine Task.ends_bind.2 (Task.ends_always.2 (Job.ends_report ?_))
  exact ⟨total.errors, ⟨total.succeeded, rfl, hwrote⟩, rfl,
    congrArg (summary.skipped + ·.length) (vanished_eq hstore ids), rfl⟩

/-- Batches in a row write what one batch of all their ids would. -/
theorem repairBatches_ends (client : Client) (sampleSize totalBatches batch : Nat)
    {batches : List (List String)} (summary : RepairSummary) (hstore : store.Sound)
    (distinct : batches.flatten.Nodup) (sound : w.index.Sound) :
    (repairBatches client sampleSize totalBatches batch batches summary).Ends
      (inMemory store faulty) w
      (fun after w' => ∃ errors,
        BatchWrote store batches.flatten summary after errors w.index w'.index)
      (fun _ _ => faulty) := by
  induction batches generalizing batch summary w with
  | nil => exact ⟨[], ⟨0, rfl, .nil False w.index⟩, (List.append_nil _).symm, rfl, rfl⟩
  | cons ids rest ih =>
    obtain ⟨hids, hrest, hdisjoint⟩ := List.nodup_append.1 distinct
    unfold repairBatches
    refine ((repairBatch_ends client sampleSize totalBatches batch summary hstore hids
      sound).sound sound).bind ?_ fun _ _ h => h.1
    intro middle w' h
    obtain ⟨⟨errors, hfirst⟩, hsound⟩ := h
    refine (ih (batch + 1) middle hrest hsound).mono ?_ fun _ _ h => h
    intro after w'' h
    obtain ⟨errors', hlater⟩ := h
    obtain ⟨succeeded, hindexed, hwrote⟩ := hfirst.indexed
    obtain ⟨succeeded', hindexed', hwrote'⟩ := hlater.indexed
    refine ⟨errors ++ errors', ⟨succeeded + succeeded', ?_, ?_⟩, ?_, ?_, ?_⟩
    · rw [hindexed', hindexed, Nat.add_assoc]
    · rw [List.flatten_cons, found, List.filterMap_append, List.map_append, List.map_append]
      exact hwrote.append hwrote' fun key h h' => hdisjoint key ((mem_ids_found hstore).1 h).1
        key ((mem_ids_found hstore).1 h').1 rfl
    · rw [hlater.failures, hfirst.failures, List.append_assoc]
    · rw [hlater.skipped, hfirst.skipped, List.flatten_cons, List.filter_append,
        List.length_append, Nat.add_assoc]
    · rw [hlater.deleted, hfirst.deleted]

/-- What deleting some documents adds to a summary and leaves of an index. -/
structure Deleted (ids : List String) (before after : RepairSummary) (w w' : Scene) : Prop where
  gone : ∀ key ∈ ids, Keyed.find? key w'.index.documents = none
  kept : ∀ key ∉ ids, Keyed.find? key w'.index.documents = Keyed.find? key w.index.documents
  mapping : w'.index.mapping = w.index.mapping
  alike : w.Alike w'
  deleted : after.deleted =
    before.deleted + (ids.filter fun id => Keyed.contains id w.index.documents).length
  failures : after.failures = before.failures
  indexed : after.indexed = before.indexed
  skipped : after.skipped = before.skipped

/-- Deleting a document that is there removes it; there is nothing to do about another. -/
theorem deleteExtra_ends (id : String) (summary : RepairSummary) (sound : w.index.Sound) :
    (deleteExtra id summary).Ends (inMemory store False) w
      fun after w' => Deleted [id] summary after w w' := by
  unfold deleteExtra Client.deleteById
  refine Job.ends_bind.2 (Job.ends_bind.2 ?_)
  cases hcontains : Keyed.contains id w.index.documents with
  | true =>
    have hanswer : w.index.answer (.deleteDocument id) =
        (.ok (), { w.index with documents := Keyed.erase id w.index.documents }) := by
      simp only [Index.Memory.answer, hcontains, if_true]
    refine (Task.ends_index_ok hanswer).attempt ?_ fun _ _ h => h.1.elim
    intro _ w' h
    obtain ⟨-, rfl⟩ := h
    refine ⟨fun key hkey => ?_, fun key hkey => ?_, rfl, ⟨rfl, rfl, rfl⟩, ?_, rfl, rfl, rfl⟩
    · obtain rfl := List.mem_singleton.1 hkey
      exact Keyed.find?_erase_self sound.ascending
    · exact Keyed.find?_erase_of_ne (fun heq => hkey (List.mem_singleton.2 heq)) _
    · simp [hcontains]
  | false =>
    have hanswer : w.index.answer (.deleteDocument id) =
        (.error (.notFound s!"document {id}"), w.index) := by
      simp only [Index.Memory.answer, hcontains]
      rfl
    have hnone : Keyed.find? id w.index.documents = none := by
      simpa [Keyed.contains] using hcontains
    refine (Task.ends_index_error hanswer).attempt (fun _ _ h => h.elim) ?_
    intro f w' h
    rcases h with ⟨rfl, rfl⟩ | ⟨hfaulty, -⟩
    · refine Job.ends_bind.2 (Job.ends_log ?_)
      refine ⟨fun key hkey => ?_, fun _ _ => rfl, rfl, ⟨rfl, rfl, rfl⟩, ?_, rfl, rfl, rfl⟩
      · obtain rfl := List.mem_singleton.1 hkey
        exact hnone
      · simp [hcontains]
    · exact hfaulty.elim

/-- Deleting one document does not touch those that are deleted after it. -/
theorem Deleted.cons {id : String} {rest : List String} {before middle after : RepairSummary}
    {w' w'' : Scene} (hfirst : Deleted [id] before middle w w')
    (hlater : Deleted rest middle after w' w'') (hhead : id ∉ rest) :
    Deleted (id :: rest) before after w w'' := by
  have hsame : ∀ key ∈ rest, Keyed.find? key w'.index.documents =
      Keyed.find? key w.index.documents := fun key hkey =>
    hfirst.kept key fun heq => hhead (List.mem_singleton.1 heq ▸ hkey)
  refine ⟨fun key hkey => ?_, fun key hkey => ?_, hlater.mapping.trans hfirst.mapping,
    hfirst.alike.trans hlater.alike, ?_, hlater.failures.trans hfirst.failures,
    hlater.indexed.trans hfirst.indexed, hlater.skipped.trans hfirst.skipped⟩
  · rcases List.mem_cons.1 hkey with rfl | hkey
    · rw [hlater.kept key hhead]
      exact hfirst.gone key (List.mem_singleton.2 rfl)
    · exact hlater.gone key hkey
  · rw [List.mem_cons, not_or] at hkey
    rw [hlater.kept key hkey.2, hfirst.kept key (by simpa using hkey.1)]
  · have hcount : (rest.filter fun id => Keyed.contains id w'.index.documents) =
        rest.filter fun id => Keyed.contains id w.index.documents :=
      List.filter_congr fun key hkey => by rw [Keyed.contains, hsame key hkey, ← Keyed.contains]
    rw [hlater.deleted, hfirst.deleted, hcount, Nat.add_assoc, ← List.length_append,
      ← List.filter_append, List.singleton_append]

/-- Deletions in a row remove the documents of all their ids. -/
theorem deleteExtras_ends {ids : List String} (summary : RepairSummary) (distinct : ids.Nodup)
    (sound : w.index.Sound) :
    (deleteExtras ids summary).Ends (inMemory store False) w
      fun after w' => Deleted ids summary after w w' := by
  induction ids generalizing summary w with
  | nil =>
    exact ⟨by simp, fun _ _ => rfl, rfl, .refl w, rfl, rfl, rfl, rfl⟩
  | cons id rest ih =>
    obtain ⟨hhead, hrest⟩ := List.nodup_cons.1 distinct
    unfold deleteExtras
    refine Job.ends_bind.2
      (((deleteExtra_ends id summary sound).keeps inMemory_sound sound).mono ?_)
    intro middle w' h
    obtain ⟨hfirst, hsound⟩ := h
    exact (ih middle hrest hsound).mono fun after w'' hlater => hfirst.cons hlater hhead

/-- Without faults, a refresh succeeds just if the index exists. -/
theorem refresh_ends (client : Client) (name : String) :
    (client.withTimeoutRetry name (Task.index .refresh)).Ends (inMemory store False) w
      (fun _ w' => w.index.mapping.isSome = true ∧
        w' = ⟨{ w.index with refreshes := w.index.refreshes + 1 }, w.events⟩)
      (fun _ w' => w.index.mapping = none ∧ w' = w) := by
  have each (w' : Scene) (same : w' = w) : (Task.index .refresh).Ends (inMemory store False) w'
      (fun _ w'' => w.index.mapping.isSome = true ∧
        w'' = ⟨{ w.index with refreshes := w.index.refreshes + 1 }, w.events⟩)
      (fun _ w'' => w.index.mapping = none ∧ w'' = w) := by
    subst same
    cases mapping : w'.index.mapping with
    | some value =>
      have answer : w'.index.answer .refresh =
          (.ok (), { w'.index with refreshes := w'.index.refreshes + 1 }) :=
        Index.Memory.ifExists_of_isSome (by rw [mapping]; rfl) _ _
      exact (Task.ends_index_ok answer).mono (fun _ _ h => ⟨rfl, h.2⟩) fun _ _ h => h.1.elim
    | none =>
      have answer : w'.index.answer .refresh = (.error Index.Memory.missing, w'.index) := by
        simp [Index.Memory.answer, Index.Memory.ifExists, mapping]
      exact (Task.ends_index_error answer).mono (fun _ _ h => h.elim)
        fun _ _ h => ⟨rfl, h.elim And.right fun struck => struck.1.elim⟩
  exact client.withTimeoutRetry_ends name each rfl

/-- A repair ends after its refresh as it does after its deletions, or without an index to
refresh. -/
theorem repair_stages (client : Client) {batchSize sampleSize : Nat} {drift : Drift}
    {mid last : RepairSummary → Scene → Prop}
    (wrote : ∀ total, (repairBatches client sampleSize total 1
      (chunks (max batchSize 1) drift.idsToIndex) {}).Ends (inMemory store False) w mid
      fun _ _ => False)
    (erased : ∀ written w₁, mid written w₁ →
      (deleteExtras drift.extra written).Ends (inMemory store False) w₁ last) :
    (repair client batchSize drift sampleSize).Ends (inMemory store False) w
      (fun summary w' => ∃ w₂, last summary w₂ ∧ w₂.index.mapping.isSome = true ∧
        w'.index = { w₂.index with refreshes := w₂.index.refreshes + 1 })
      (fun _ w' => ∃ summary w₂, last summary w₂ ∧ w₂.index.mapping = none ∧
        w'.index = w₂.index) := by
  unfold repair
  dsimp only
  refine (wrote _).bind (fun written w₁ h₁ => ?_) fun _ _ h => h.elim
  refine (erased written w₁ h₁).always_bind fun summary w₂ h₂ => ?_
  have reported (next : Unit → Task RepairSummary) {good : RepairSummary → Scene → Prop}
      {bad : Failure → Scene → Prop}
      (goesOn : ∀ w', w'.index = w₂.index → (next ()).Ends (inMemory store False) w' good bad) :
      (if (!drift.extra.isEmpty) = true then do
          let done ← Task.always (Job.report
            (.repairDeleted summary.deleted summary.deleteFailures.length))
          next done
        else next ()).Ends (inMemory store False) w₂ good bad := by
    split
    · exact Task.ends_bind.2 (Task.ends_always.2 (Job.ends_report (goesOn _ rfl)))
    · exact goesOn w₂ rfl
  refine reported _ fun w₃ same => ?_
  refine (refresh_ends client "refresh").withContext.bind (fun _ w₄ h₄ => ?_) fun _ w₄ h₄ => ?_
  · obtain ⟨existing, rfl⟩ := h₄
    rw [same] at existing
    exact Task.ends_bind.2 (Task.ends_always.2 (Job.ends_log ⟨w₂, h₂, existing, by rw [same]⟩))
  · obtain ⟨absent, rfl⟩ := h₄
    exact ⟨summary, w₂, h₂, by rw [← same, absent], same⟩

end CatalogSearch.Repair
