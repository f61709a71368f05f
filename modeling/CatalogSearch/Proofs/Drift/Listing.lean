import CatalogSearch.Proofs.Drift.Between
import CatalogSearch.Proofs.Index.Sound
import CatalogSearch.Proofs.Store.Pages

/-!
# The drift of an index against a store

What a comparison of both listings says, read off the records and the documents themselves: which
ids are missing, extra or updated, and that no id is named twice.
-/
namespace CatalogSearch.Drift

open Index (Memory)

/-- The difference between a store and an index, as their listings show it. -/
def ofSides (store : Store.Memory) (m : Memory) : Drift :=
  between (store.all.map fun r => (r.id, r.lastHarvested))
    ((Keyed.values m.documents).map fun d => (d.id, d.lastHarvested))

variable {store : Store.Memory} {m m' : Memory}

/-- The listing of values that stand under their own ids is in normal form but for the values. -/
theorem normalized_of_keyed {α : Type} {entries : List (String × α)} {id : α → String}
    {freshness : α → Option String} (ascending : Keyed.Ascending entries)
    (keyed : ∀ e ∈ entries, id e.2 = e.1) :
    normalized ((Keyed.values entries).map fun a => (id a, freshness a)) =
      entries.map fun e => (e.1, Time.normalize (freshness e.2)) := by
  have hlisting : ((Keyed.values entries).map fun a => (id a, freshness a)).map
      (fun e => (e.1, Time.normalize e.2)) =
        entries.map fun e => (e.1, Time.normalize (freshness e.2)) := by
    rw [Keyed.values, List.map_map, List.map_map]
    refine List.map_congr_left fun e he => ?_
    exact Prod.ext (keyed e he) rfl
  rw [normalized, hlisting]
  exact Keyed.ofList_of_ascending
    (Keyed.ascending_map (fun a => Time.normalize (freshness a)) ascending)

theorem normalized_store (h : store.Sound) :
    normalized (store.all.map fun r => (r.id, r.lastHarvested)) =
      store.records.map fun e => (e.1, Time.normalize e.2.lastHarvested) :=
  normalized_of_keyed h.ascending h.keyed

theorem normalized_index (h : m.Sound) :
    normalized ((Keyed.values m.documents).map fun d => (d.id, d.lastHarvested)) =
      m.documents.map fun e => (e.1, Time.normalize e.2.lastHarvested) :=
  normalized_of_keyed h.ascending h.keyed

/-- What differs between a record and the document under its id, if there is one. -/
def stale? (m : Memory) (e : String × Record) : Option (String × FreshnessPair) :=
  match Keyed.find? e.1 m.documents with
  | some d =>
    if Time.normalize d.lastHarvested = Time.normalize e.2.lastHarvested then none
    else some (e.1, ⟨Time.normalize d.lastHarvested, Time.normalize e.2.lastHarvested⟩)
  | none => none

/-- A record is stale if there is a document of another freshness. -/
theorem stale?_eq_some {e : String × Record} {u : String × FreshnessPair}
    (h : stale? m e = some u) :
    u.1 = e.1 ∧ ∃ d, Keyed.find? e.1 m.documents = some d ∧
      Time.normalize d.lastHarvested ≠ Time.normalize e.2.lastHarvested := by
  unfold stale? at h
  split at h
  · next d hd =>
    split at h
    · cases h
    · next hne =>
      obtain rfl := Option.some.inj h
      exact ⟨rfl, d, hd, hne⟩
  · cases h

/-- Missing are the ids of the store without a document. -/
theorem missing_ofSides (hstore : store.Sound) (sound : m.Sound) :
    (ofSides store m).missing =
      (Keyed.keys store.records).filter fun key => !Keyed.contains key m.documents := by
  have hcontains (key : String) := Keyed.contains_map
    (fun d : Document => Time.normalize d.lastHarvested) key m.documents
  simp only [ofSides, between, normalized_store hstore, normalized_index sound, hcontains]
  rw [Keyed.keys, Keyed.keys, List.filter_map, List.filter_map, List.map_map]
  rfl

/-- Extra are the ids of the index without a record. -/
theorem extra_ofSides (hstore : store.Sound) (sound : m.Sound) :
    (ofSides store m).extra =
      (Keyed.keys m.documents).filter fun key => !Keyed.contains key store.records := by
  have hcontains (key : String) := Keyed.contains_map
    (fun r : Record => Time.normalize r.lastHarvested) key store.records
  simp only [ofSides, between, normalized_store hstore, normalized_index sound, hcontains]
  rw [Keyed.keys, Keyed.keys, List.filter_map, List.filter_map, List.map_map]
  rfl

/-- Updated are the ids whose record and document differ in their freshness. -/
theorem updated_ofSides (hstore : store.Sound) (sound : m.Sound) :
    (ofSides store m).updated = store.records.filterMap (stale? m) := by
  simp only [ofSides, between, normalized_store hstore, normalized_index sound,
    List.filterMap_map]
  refine List.filterMap_congr fun e _ => ?_
  have hfind := Keyed.find?_map (fun d : Document => Time.normalize d.lastHarvested) e.1 m.documents
  simp only [Function.comp, hfind, stale?]
  cases Keyed.find? e.1 m.documents <;> rfl

/-- An id is missing if the store has it and the index does not. -/
theorem mem_missing (hstore : store.Sound) (sound : m.Sound) {key : String} :
    key ∈ (ofSides store m).missing ↔
      Keyed.contains key store.records = true ∧ Keyed.contains key m.documents = false := by
  rw [missing_ofSides hstore sound, List.mem_filter, Keyed.contains_iff, Bool.not_eq_true']

/-- An id is extra if the index has it and the store does not. -/
theorem mem_extra (hstore : store.Sound) (sound : m.Sound) {key : String} :
    key ∈ (ofSides store m).extra ↔
      Keyed.contains key m.documents = true ∧ Keyed.contains key store.records = false := by
  rw [extra_ofSides hstore sound, List.mem_filter, Keyed.contains_iff, Bool.not_eq_true']

/-- The id of an update is in both listings. -/
theorem contains_of_mem_updated (hstore : store.Sound) (sound : m.Sound) {key : String}
    (h : key ∈ Keyed.keys (ofSides store m).updated) :
    Keyed.contains key store.records = true ∧ Keyed.contains key m.documents = true := by
  obtain ⟨u, hu, rfl⟩ := List.mem_map.1 h
  rw [updated_ofSides hstore sound] at hu
  obtain ⟨e, he, hstale⟩ := List.mem_filterMap.1 hu
  obtain ⟨hkey, d, hd, -⟩ := stale?_eq_some hstale
  rw [hkey]
  exact ⟨Keyed.contains_iff.2 (List.mem_map_of_mem he), by rw [Keyed.contains, hd]; rfl⟩

/-- An id that is to be written is missing or updated. -/
theorem mem_idsToIndex {d : Drift} {key : String} :
    key ∈ d.idsToIndex ↔ key ∈ d.missing ∨ key ∈ Keyed.keys d.updated := by
  rw [idsToIndex, List.mem_mergeSort, List.mem_append]

/-- Every id that is to be written has a record. -/
theorem contains_of_mem_idsToIndex (hstore : store.Sound) (sound : m.Sound) {key : String}
    (h : key ∈ (ofSides store m).idsToIndex) : Keyed.contains key store.records = true := by
  rcases mem_idsToIndex.1 h with hmissing | hupdated
  · exact ((mem_missing hstore sound).1 hmissing).1
  · exact (contains_of_mem_updated hstore sound hupdated).1

/-- The ids that are to be written are different. -/
theorem nodup_idsToIndex (hstore : store.Sound) (sound : m.Sound) :
    (ofSides store m).idsToIndex.Nodup := by
  have hmissing : (ofSides store m).missing.Nodup := by
    rw [missing_ofSides hstore sound]
    exact (Keyed.nodup_keys hstore.ascending).sublist List.filter_sublist
  have hupdated : Keyed.Ascending (ofSides store m).updated := by
    rw [updated_ofSides hstore sound]
    refine List.Pairwise.filterMap _ (fun e f hlt u hu v hv => ?_) hstore.ascending
    rw [(stale?_eq_some hu).1, (stale?_eq_some hv).1]
    exact hlt
  rw [idsToIndex, (List.mergeSort_perm _ _).nodup_iff, List.nodup_append]
  refine ⟨hmissing, Keyed.nodup_keys hupdated, fun key hkey other hother heq => ?_⟩
  subst heq
  have habsent := ((mem_missing hstore sound).1 hkey).2
  rw [(contains_of_mem_updated hstore sound hother).2] at habsent
  cases habsent

theorem nodup_extra (hstore : store.Sound) (sound : m.Sound) :
    (ofSides store m).extra.Nodup := by
  rw [extra_ofSides hstore sound]
  exact (Keyed.nodup_keys sound.ascending).sublist List.filter_sublist

end CatalogSearch.Drift
