import CatalogSearch.Proofs.Drift.Listing
import CatalogSearch.Proofs.Rehearsal.Disturbed
import CatalogSearch.Proofs.Repair.Batches
import Mathlib.Control.Monad.Basic

/-!
# What a repair leaves

A repair of a drift writes what was missing or updated unless the index refuses it, deletes what
was extra, and leaves all else as it was. The next comparison finds exactly what was refused.
-/
namespace CatalogSearch

open Index (Client Memory Wrote maxResubmissions)

namespace Drift

variable {store : Store.Memory} {m m' : Memory} {failed : List String}

/-- An index after a repair: what was missing or updated is written unless it failed, what was extra
is gone, and all else is as it was. -/
structure Repaired (store : Store.Memory) (m m' : Memory) (failed : List String) : Prop where
  written : ∀ key ∈ (ofSides store m).idsToIndex, key ∉ failed →
    ∃ r, Keyed.find? key store.records = some r ∧
      Keyed.find? key m'.documents = some (Document.ofRecord r)
  deleted : ∀ key ∈ (ofSides store m).extra, Keyed.find? key m'.documents = none
  kept : ∀ key ∉ (ofSides store m).extra,
    (key ∈ (ofSides store m).idsToIndex → key ∈ failed) →
    Keyed.find? key m'.documents = Keyed.find? key m.documents

/-- What the store has is not extra. -/
theorem not_mem_extra_of_contains (hstore : store.Sound) (sound : m.Sound) {key : String}
    (h : Keyed.contains key store.records = true) : key ∉ (ofSides store m).extra := by
  intro hextra
  rw [((mem_extra hstore sound).1 hextra).2] at h
  cases h

/-- A document that was just written is not stale. -/
theorem stale?_of_written {e : String × Record}
    (h : Keyed.find? e.1 m.documents = some (Document.ofRecord e.2)) : stale? m e = none := by
  simp only [stale?, h]
  exact if_pos (Time.normalize_bind_toUtc e.2.lastHarvested)

/-- What is missing after a repair was missing before and failed. -/
theorem Repaired.missing_eq (h : Repaired store m m' failed) (hstore : store.Sound)
    (sound : m.Sound) (sound' : m'.Sound) :
    (ofSides store m').missing = (ofSides store m).missing.filter fun key => key ∈ failed := by
  rw [missing_ofSides hstore sound', missing_ofSides hstore sound, List.filter_filter]
  refine List.filter_congr fun key hkey => ?_
  have hcontains := Keyed.contains_iff.2 hkey
  by_cases hwritten : key ∈ (ofSides store m).idsToIndex ∧ key ∉ failed
  · obtain ⟨r, -, hfound⟩ := h.written key hwritten.1 hwritten.2
    simp [Keyed.contains, hfound, hwritten.2]
  · have hsame := h.kept key (not_mem_extra_of_contains hstore sound hcontains) fun hin =>
      Decidable.byContradiction fun hfailed => hwritten ⟨hin, hfailed⟩
    rw [Keyed.contains, hsame, ← Keyed.contains]
    cases hfound : Keyed.contains key m.documents with
    | true => simp
    | false =>
      have hmissing := mem_idsToIndex.2 (.inl ((mem_missing hstore sound).2 ⟨hcontains, hfound⟩))
      simpa using Decidable.byContradiction fun hfailed => hwritten ⟨hmissing, hfailed⟩

/-- What is updated after a repair was updated before and failed, with the same freshness. -/
theorem Repaired.updated_eq (h : Repaired store m m' failed) (hstore : store.Sound)
    (sound : m.Sound) (sound' : m'.Sound) :
    (ofSides store m').updated = (ofSides store m).updated.filter fun u => u.1 ∈ failed := by
  rw [updated_ofSides hstore sound', updated_ofSides hstore sound, List.filter_filterMap]
  refine List.filterMap_congr fun e he => ?_
  have hcontains := Keyed.contains_iff.2 (List.mem_map_of_mem (f := (·.1)) he)
  by_cases hwritten : e.1 ∈ (ofSides store m).idsToIndex ∧ e.1 ∉ failed
  · obtain ⟨r, hr, hfound⟩ := h.written e.1 hwritten.1 hwritten.2
    rw [Keyed.find?_of_mem hstore.ascending he] at hr
    obtain rfl := Option.some.inj hr
    rw [stale?_of_written hfound]
    cases hstale : stale? m e with
    | none => rfl
    | some u => simp [Option.filter, (stale?_eq_some hstale).1, hwritten.2]
  · have hsame := h.kept e.1 (not_mem_extra_of_contains hstore sound hcontains) fun hin =>
      Decidable.byContradiction fun hfailed => hwritten ⟨hin, hfailed⟩
    have hstale : stale? m' e = stale? m e := by simp only [stale?, hsame]
    rw [hstale]
    cases hbefore : stale? m e with
    | none => rfl
    | some u =>
      have hkey := (stale?_eq_some hbefore).1
      have hupdated : u ∈ (ofSides store m).updated := by
        rw [updated_ofSides hstore sound]
        exact List.mem_filterMap.2 ⟨e, he, hbefore⟩
      have hin : e.1 ∈ (ofSides store m).idsToIndex :=
        mem_idsToIndex.2 (.inr (hkey ▸ List.mem_map_of_mem hupdated))
      have hfailed : e.1 ∈ failed :=
        Decidable.byContradiction fun hfailed => hwritten ⟨hin, hfailed⟩
      simp [Option.filter, hkey, hfailed]

/-- Nothing is extra after a repair. -/
theorem Repaired.extra_eq (h : Repaired store m m' failed) (hstore : store.Sound)
    (sound : m.Sound) (sound' : m'.Sound) : (ofSides store m').extra = [] := by
  rw [extra_ofSides hstore sound']
  refine List.filter_eq_nil_iff.2 fun key hkey hnone => ?_
  have hstored : Keyed.contains key store.records = false := by simpa using hnone
  have hafter : Keyed.contains key m'.documents = true := Keyed.contains_iff.2 hkey
  have hextra : key ∉ (ofSides store m).extra := fun hextra => by
    rw [Keyed.contains, h.deleted key hextra] at hafter
    cases hafter
  have hsame := h.kept key hextra fun hin => by
    have hcontains := contains_of_mem_idsToIndex hstore sound hin
    rw [hstored] at hcontains
    cases hcontains
  rw [Keyed.contains, hsame, ← Keyed.contains] at hafter
  exact hextra ((mem_extra hstore sound).2 ⟨hafter, hstored⟩)

end Drift

namespace Repair

open Drift (ofSides)
open Rehearsal (Journal calm)

variable {store : Store.Memory} {faulty : Prop} {w : Scene} {m m' : Memory}

/-- A comparison finds the drift and changes nothing. -/
theorem computeDrift_ends (client : Client) (hmapping : w.index.mapping.isSome = true) :
    (computeDrift client).Ends (inMemory store faulty) w
      (fun drift w' => drift = ofSides store w.index ∧ w' = w) (fun _ _ => faulty) := by
  have hlisting : store.answer .listing = .ok (store.all.map fun r => (r.id, r.lastHarvested)) :=
    rfl
  have hscan : w.index.answer .scanFreshness =
      (.ok ((Keyed.values w.index.documents).map fun d => (d.id, d.lastHarvested)), w.index) :=
    Memory.ifExists_of_isSome hmapping _ _
  unfold computeDrift
  refine (Task.ends_store hlisting).withContext.bind ?_ fun _ _ h => h.1
  intro storeListing w' h
  obtain ⟨rfl, rfl⟩ := h
  refine (client.steady_ends "scan_freshness" (Index.answered_ends hscan)).withContext.bind ?_
    fun _ _ h => h.1
  intro indexListing w'' h
  obtain ⟨rfl, rfl⟩ := h
  exact Task.ends_bind.2 (Task.ends_always.2 (Job.ends_log ⟨rfl, rfl⟩))

/-- What a repair of a drift adds up to, from the index before the deletions. -/
structure Mended (store : Store.Memory) (drift : Drift) (m middle m' : Memory)
    (summary : RepairSummary) : Prop where
  wrote : Wrote False ((found store drift.idsToIndex).map Document.ofRecord) summary.indexed
    (summary.failures.map (·.documentId)) m middle
  gone : ∀ key ∈ drift.extra, Keyed.find? key m'.documents = none
  kept : ∀ key ∉ drift.extra, Keyed.find? key m'.documents = Keyed.find? key middle.documents
  mapping : m'.mapping.isSome = true
  deleted : summary.deleted =
    (drift.extra.filter fun id => Keyed.contains id middle.documents).length

/-- A repair writes its batches, deletes what is extra and refreshes the index. -/
theorem repair_ends (client : Client) (batchSize sampleSize : Nat) {drift : Drift}
    (hstore : store.Sound) (hids : drift.idsToIndex.Nodup) (hextra : drift.extra.Nodup)
    (sound : w.index.Sound) (hmapping : w.index.mapping.isSome = true) :
    (repair client batchSize drift sampleSize).Ends (inMemory store False) w
      (fun summary w' => ∃ middle, Mended store drift w.index middle w'.index summary)
      (fun _ _ => False) := by
  have hflatten : (chunks (max batchSize 1) drift.idsToIndex).flatten = drift.idsToIndex :=
    flatten_chunks (Nat.le_max_right batchSize 1) _
  have hwrote (total : Nat) : (repairBatches client sampleSize total 1
      (chunks (max batchSize 1) drift.idsToIndex) {}).Ends (inMemory store False) w
      (fun written w₁ =>
        (∃ errors, BatchWrote store drift.idsToIndex {} written errors w.index w₁.index) ∧
          w₁.index.Sound)
      fun _ _ => False := by
    generalize chunks (max batchSize 1) drift.idsToIndex = batches at hflatten ⊢
    rw [← hflatten] at hids ⊢
    exact ((repairBatches_ends client sampleSize total 1 {} hstore hids sound).sound sound).mono
      (fun _ _ h => h) fun _ _ h => h.1
  have herased (written : RepairSummary) (w₁ : Scene)
      (h : (∃ errors, BatchWrote store drift.idsToIndex {} written errors w.index w₁.index) ∧
        w₁.index.Sound) :
      (deleteExtras drift.extra written).Ends (inMemory store False) w₁ fun summary w₂ =>
        ∃ written w₁ errors, BatchWrote store drift.idsToIndex {} written errors w.index w₁.index ∧
          Deleted drift.extra written summary w₁ w₂ := by
    obtain ⟨⟨errors, hbatches⟩, hsound₁⟩ := h
    exact (deleteExtras_ends written hextra hsound₁).mono fun _ _ hdeleted =>
      ⟨written, w₁, errors, hbatches, hdeleted⟩
  refine (repair_stages client hwrote herased).mono ?_ ?_
  · rintro summary w' ⟨w₂, ⟨written, w₁, errors, hbatches, hdeleted⟩, hmapping₂, hindex⟩
    obtain ⟨succeeded, hindexed, hwrote⟩ := hbatches.indexed
    refine ⟨w₁.index, ?_, fun key hkey => ?_, fun key hkey => ?_, ?_, ?_⟩
    · rw [hdeleted.indexed, hdeleted.failures, hindexed, hbatches.failures]
      simpa using hwrote
    · rw [hindex]
      exact hdeleted.gone key hkey
    · rw [hindex]
      exact hdeleted.kept key hkey
    · rw [hindex]
      exact hmapping₂
    · rw [hdeleted.deleted, hbatches.deleted]
      simp
  · rintro f w' ⟨summary, w₂, ⟨written, w₁, errors, hbatches, hdeleted⟩, habsent, -⟩
    obtain ⟨succeeded, -, hwrote⟩ := hbatches.indexed
    rw [hdeleted.mapping, hwrote.mapping hmapping] at habsent
    simp [habsent] at hmapping

variable {middle : Memory} {summary : RepairSummary}

/-- The refused documents are those of the drift that the index does not take. -/
theorem Mended.mem_failures (h : Mended store (ofSides store m) m middle m' summary)
    (hstore : store.Sound) (sound : m.Sound) {id : String} :
    id ∈ summary.failures.map (·.documentId) ↔
      id ∈ (ofSides store m).idsToIndex ∧ m.takes maxResubmissions id = false := by
  have hrefused {id : String} (hid : id ∈ ((found store (ofSides store m).idsToIndex).map
      Document.ofRecord).map (·.id)) :
      id ∈ summary.failures.map (·.documentId) ↔ m.takes maxResubmissions id = false := by
    obtain ⟨d, hd, rfl⟩ := List.mem_map.1 hid
    exact h.wrote.refused_iff not_false d hd
  constructor
  · intro hid
    have hknown := h.wrote.known id hid
    exact ⟨((mem_ids_found hstore).1 hknown).1, (hrefused hknown).1 hid⟩
  · rintro ⟨hid, htakes⟩
    have hcontains := Drift.contains_of_mem_idsToIndex hstore sound hid
    exact (hrefused ((mem_ids_found hstore).2 ⟨hid, hcontains⟩)).2 htakes

/-- Before the deletions, an id that the store does not have is as it was. -/
theorem Mended.middle_of_not_contains (h : Mended store (ofSides store m) m middle m' summary)
    (hstore : store.Sound) {key : String} (hkey : Keyed.contains key store.records = false) :
    Keyed.find? key middle.documents = Keyed.find? key m.documents := by
  refine h.wrote.kept key fun hin => ?_
  rw [((mem_ids_found hstore).1 hin).2] at hkey
  cases hkey

theorem Mended.repaired (h : Mended store (ofSides store m) m middle m' summary)
    (hstore : store.Sound) (sound : m.Sound) :
    Drift.Repaired store m m' (summary.failures.map (·.documentId)) where
  written key hkey hfailed := by
    have hcontains := Drift.contains_of_mem_idsToIndex hstore sound hkey
    obtain ⟨r, hr⟩ := Option.isSome_iff_exists.1 hcontains
    have hid : r.id = key := hstore.keyed (key, r) (Keyed.mem_of_find? hr)
    have hfound : Document.ofRecord r ∈
        (found store (ofSides store m).idsToIndex).map Document.ofRecord :=
      List.mem_map_of_mem (List.mem_filterMap.2 ⟨key, hkey, hr⟩)
    refine ⟨r, hr, ?_⟩
    rw [h.kept key (Drift.not_mem_extra_of_contains hstore sound hcontains)]
    have htaken := h.wrote.taken (Document.ofRecord r) hfound
    rw [show (Document.ofRecord r).id = key from hid] at htaken
    exact htaken hfailed
  deleted := h.gone
  kept key hextra hkey := by
    rw [h.kept key hextra]
    exact h.wrote.kept key fun hin => hkey ((mem_ids_found hstore).1 hin).1

/-- Every id of the drift that is to be written is counted once. -/
theorem Mended.total (h : Mended store (ofSides store m) m middle m' summary)
    (hstore : store.Sound) (sound : m.Sound) :
    summary.indexed + summary.failures.length =
      (ofSides store m).missing.length + (ofSides store m).updated.length := by
  have htotal := h.wrote.total
  have hfound : (found store (ofSides store m).idsToIndex).length =
      (ofSides store m).idsToIndex.length := by
    have hids := congrArg List.length (ids_found hstore (ofSides store m).idsToIndex)
    rw [List.length_map, List.filter_eq_self.2 fun id hid =>
      Drift.contains_of_mem_idsToIndex hstore sound hid] at hids
    exact hids
  rwa [List.length_map, List.length_map, hfound, Drift.length_idsToIndex] at htotal

/-- Every extra document is deleted. -/
theorem Mended.deleted_eq (h : Mended store (ofSides store m) m middle m' summary)
    (hstore : store.Sound) (sound : m.Sound) :
    summary.deleted = (ofSides store m).extra.length := by
  rw [h.deleted, List.filter_eq_self.2 fun key hkey => ?_]
  obtain ⟨hcontains, hstored⟩ := (Drift.mem_extra hstore sound).1 hkey
  rw [Keyed.contains, h.middle_of_not_contains hstore hstored]
  exact hcontains

/-- A comparison, a repair of the drift that it finds, and a second comparison: the second drift is
the part of the first whose documents the index refuses, and each of these is named among the
failures of the repair. -/
theorem repair_leaves_failures (client : Client) (batchSize sampleSize : Nat)
    {store : Store.Memory} {index : Memory} (journal : Journal) (hstore : store.Sound)
    (sound : index.Sound) (hmapping : index.mapping.isSome = true) :
    ∃ drift journal₁ summary index' journal₂ drift' journal₃ failed,
      (calm store index journal).run (computeDrift client) =
        (.ok drift, calm store index journal₁) ∧
      (calm store index journal₁).run (repair client batchSize drift sampleSize) =
        (.ok summary, calm store index' journal₂) ∧
      (calm store index' journal₂).run (computeDrift client) =
        (.ok drift', calm store index' journal₃) ∧
      failed = summary.failures.map (·.documentId) ∧
      (∀ id, id ∈ failed ↔ (id ∈ drift.missing ∨ id ∈ Keyed.keys drift.updated) ∧
        index.takes maxResubmissions id = false) ∧
      drift'.missing = drift.missing.filter (fun id => id ∈ failed) ∧
      drift'.updated = drift.updated.filter (fun u => u.1 ∈ failed) ∧
      drift'.extra = [] ∧
      (∀ id, id ∈ drift.missing ∨ id ∈ Keyed.keys drift.updated → id ∉ failed →
        ∃ r, Keyed.find? id store.records = some r ∧
          Keyed.find? id index'.documents = some (Document.ofRecord r)) ∧
      (∀ id ∉ drift.extra, (id ∈ drift.missing ∨ id ∈ Keyed.keys drift.updated → id ∈ failed) →
        Keyed.find? id index'.documents = Keyed.find? id index.documents) ∧
      summary.deleted = drift.extra.length ∧
      summary.indexed + summary.failures.length =
        drift.missing.length + drift.updated.length ∧
      (summary.failures = [] → drift'.isClean = true) := by
  obtain ⟨drift, index₁, journal₁, hrun₁, rfl, hscene₁⟩ := Rehearsal.run_calm
    (computeDrift_ends (w := ⟨index, journal.events⟩) client hmapping)
  obtain rfl : index = index₁ := (congrArg Scene.index hscene₁).symm
  have hids := Drift.nodup_idsToIndex hstore sound
  have hextra := Drift.nodup_extra hstore sound
  obtain ⟨summary, index', journal₂, hrun₂, ⟨middle, h⟩, sound'⟩ := Rehearsal.run_calm
    (((repair_ends (w := ⟨index, journal₁.events⟩) client batchSize sampleSize hstore hids hextra
      sound hmapping).sound sound).mono (fun _ _ h => h) fun _ _ h => h.1)
  obtain ⟨drift', index₃, journal₃, hrun₃, rfl, hscene₃⟩ := Rehearsal.run_calm
    (computeDrift_ends (w := ⟨index', journal₂.events⟩) client h.mapping)
  obtain rfl : index' = index₃ := (congrArg Scene.index hscene₃).symm
  have hrepaired := h.repaired hstore sound
  have hmissing := hrepaired.missing_eq hstore sound sound'
  have hupdated := hrepaired.updated_eq hstore sound sound'
  have hextra' := hrepaired.extra_eq hstore sound sound'
  simp only [← Drift.mem_idsToIndex]
  refine ⟨ofSides store index, journal₁, summary, index', journal₂, ofSides store index',
    journal₃, _, hrun₁, hrun₂, hrun₃, rfl, fun _ => h.mem_failures hstore sound, hmissing,
    hupdated, hextra', hrepaired.written, hrepaired.kept, h.deleted_eq hstore sound,
    h.total hstore sound, fun hnone => ?_⟩
  simp [Drift.isClean, hmissing, hupdated, hextra', hnone]

/-- An index with a stale document that is rejected, an extra one, and one that waits too long. -/
def mixedIndex : Memory :=
  ((({} : Memory).put { (default : Document) with id := "b", lastHarvested := some "2020-01-01" })
    |>.put { (default : Document) with id := "x" }
    |>.reject "b" "mapper_parsing_exception" "bad field").throttle "c" 4

/-- Of three records one is written, one waits too long and one is rejected; the extra document
goes. -/
theorem repair_leaves_failures_mixed :
    ∃ drift journal₁ summary index' journal₂ drift' journal₃,
      (calm (.ofIds ["a", "b", "c"]) mixedIndex {}).run (computeDrift {}) =
        (.ok drift, calm (.ofIds ["a", "b", "c"]) mixedIndex journal₁) ∧
      (calm (.ofIds ["a", "b", "c"]) mixedIndex journal₁).run (repair {} 0 drift 5) =
        (.ok summary, calm (.ofIds ["a", "b", "c"]) index' journal₂) ∧
      (calm (.ofIds ["a", "b", "c"]) index' journal₂).run (computeDrift {}) =
        (.ok drift', calm (.ofIds ["a", "b", "c"]) index' journal₃) ∧
      drift.missing = ["a", "c"] ∧ drift'.missing = ["c"] ∧
      Keyed.keys drift'.updated = ["b"] ∧ drift'.extra = [] ∧ summary.deleted = 1 := by
  have sound : mixedIndex.Sound :=
    (((Memory.sound_initial.put _).put _).reject _ _ _).throttle _ _
  obtain ⟨drift, journal₁, summary, index', journal₂, drift', journal₃, failed, hrun₁, hrun₂,
    hrun₃, -, hfailed, hmissing, hupdated, hextra, -, -, hdeleted, -⟩ :=
    repair_leaves_failures {} 0 5 {} (Store.Memory.sound_ofIds ["a", "b", "c"]) sound
      (by decide +kernel)
  have hdrift : ((calm (.ofIds ["a", "b", "c"]) mixedIndex {}).run (computeDrift {})).1 =
      .ok ⟨["a", "c"], ["x"], [("b", ⟨"2020-01-01T00:00:00.000000+00:00", Time.absent⟩)]⟩ := by
    decide +kernel
  rw [hrun₁] at hdrift
  obtain rfl := Except.ok.inj hdrift
  have hpasses : "a" ∉ failed := fun h => absurd ((hfailed "a").1 h).2 (by decide +kernel)
  have hwaits : "c" ∈ failed := (hfailed "c").2 ⟨by decide +kernel, by decide +kernel⟩
  have hrejected : "b" ∈ failed := (hfailed "b").2 ⟨by decide +kernel, by decide +kernel⟩
  refine ⟨_, journal₁, summary, index', journal₂, drift', journal₃, hrun₁, hrun₂, hrun₃, rfl, ?_,
    ?_, hextra, hdeleted⟩
  · rw [hmissing]
    simp [hpasses, hwaits]
  · rw [hupdated]
    simp [hrejected, Keyed.keys]

end Repair

end CatalogSearch
