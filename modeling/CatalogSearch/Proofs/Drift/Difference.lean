import CatalogSearch.Proofs.Drift.Between
import CatalogSearch.Proofs.Text.ByteOrder
import Mathlib.Data.List.Sort

/-!
# Drift as a difference

A listing gives every id of its entries one freshness, and a drift is the difference of what two
listings give. There is only one such difference. Hence it is the same for listings that give the
same, in whatever order their entries stand, and exchanging the listings exchanges its sides.
-/
namespace CatalogSearch

def FreshnessPair.exchanged (pair : FreshnessPair) : FreshnessPair :=
  ⟨pair.store, pair.index⟩

namespace Drift

def exchanged (d : Drift) : Drift :=
  ⟨d.extra, d.missing, d.updated.map fun u => (u.1, u.2.exchanged)⟩

variable {store index store' index' listing : List Freshness} {id : String} {d d' : Drift}

/-- The freshness that a listing gives to an id, in normal form: that of the last entry with this
id. -/
def given? (id : String) (listing : List Freshness) : Option String :=
  (listing.filter fun e => e.1 = id).getLast?.map fun e => Time.normalize e.2

theorem find?_normalized (id : String) (listing : List Freshness) :
    Keyed.find? id (normalized listing) = given? id listing := by
  have first (entries : List Freshness) : Keyed.find? id entries =
      (entries.find? fun e => e.1 = id).map (·.2) := by
    induction entries with
    | nil => rfl
    | cons e rest ih => by_cases here : e.1 = id <;> simp [Keyed.find?, here, ih]
  rw [normalized, Keyed.find?_ofList, ← List.map_reverse, Keyed.find?_map, first, given?,
    List.getLast?_filter, Option.map_map]
  rfl

/-- An id is given a freshness if the listing has an entry with it. -/
theorem isSome_given? : (given? id listing).isSome = true ↔ id ∈ listing.map (·.1) := by
  rw [given?, Option.isSome_map, List.getLast?_isSome, Ne, List.filter_eq_nil_iff]
  simp

theorem contains_normalized :
    Keyed.contains id (normalized listing) = true ↔ id ∈ listing.map (·.1) := by
  rw [Keyed.contains, find?_normalized, isSome_given?]

/-- A drift that says of each id how two listings differ, in ascending order. -/
structure IsDifference (store index : List Freshness) (d : Drift) : Prop where
  missing : ∀ id, id ∈ d.missing ↔ id ∈ store.map (·.1) ∧ id ∉ index.map (·.1)
  extra : ∀ id, id ∈ d.extra ↔ id ∈ index.map (·.1) ∧ id ∉ store.map (·.1)
  updated : ∀ id pair, (id, pair) ∈ d.updated ↔
    given? id index = some pair.index ∧ given? id store = some pair.store ∧
      pair.index ≠ pair.store
  missing_ascend : d.missing.Pairwise (· < ·)
  extra_ascend : d.extra.Pairwise (· < ·)
  updated_ascend : (Keyed.keys d.updated).Pairwise (· < ·)

theorem keys_updated_sublist (store index : List Freshness) :
    (Keyed.keys (between store index).updated).Sublist (Keyed.keys (normalized store)) := by
  simp only [between]
  induction normalized store with
  | nil => exact .slnil
  | cons e rest ih =>
    rw [List.filterMap_cons]
    split
    · exact ih.cons e.1
    · next u made =>
      have same : u.1 = e.1 := by
        split at made
        · split at made
          · cases made
          · exact (congrArg Prod.fst (Option.some.inj made)).symm
        · cases made
      simp only [Keyed.keys, List.map_cons, same] at ih ⊢
      exact ih.cons_cons e.1

/-- What two listings differ in is their drift. -/
theorem isDifference_between (store index : List Freshness) :
    IsDifference store index (between store index) := by
  have ascend (listing : List Freshness) : (Keyed.keys (normalized listing)).Pairwise (· < ·) :=
    List.pairwise_map.2 (ascending_normalized listing)
  have only {a b : List Freshness} (id : String) :
      id ∈ Keyed.keys ((normalized a).filter fun e => !Keyed.contains e.1 (normalized b)) ↔
        id ∈ a.map (·.1) ∧ id ∉ b.map (·.1) := by
    rw [← contains_normalized, Keyed.contains_iff, ← contains_normalized]
    simp [Keyed.keys]
  have given (a : List Freshness) (id s : String) :
      (id, s) ∈ normalized a ↔ given? id a = some s := by
    rw [← find?_normalized]
    exact ⟨Keyed.find?_of_mem (ascending_normalized a), Keyed.mem_of_find?⟩
  refine ⟨only, only, fun id pair => ?_, ?_, ?_, ?_⟩
  · simp only [between, List.mem_filterMap, find?_normalized]
    constructor
    · rintro ⟨⟨key, s⟩, mem, same⟩
      rw [given] at mem
      split at same
      · next shown indexed =>
        split at same
        · cases same
        · next differs =>
          obtain ⟨rfl, rfl⟩ := Prod.mk.inj (Option.some.inj same)
          exact ⟨indexed, mem, differs⟩
      · cases same
    · rintro ⟨indexed, stored, differs⟩
      refine ⟨(id, pair.store), (given store id _).2 stored, ?_⟩
      simp [indexed, differs]
  · exact (ascend store).sublist (List.filter_sublist.map _)
  · exact (ascend index).sublist (List.filter_sublist.map _)
  · exact (ascend store).sublist (keys_updated_sublist store index)

/-- Two listings have only one difference. -/
theorem IsDifference.unique (h : IsDifference store index d) (h' : IsDifference store index d') :
    d = d' := by
  obtain ⟨missing, extra, updated⟩ := d
  obtain ⟨missing', extra', updated'⟩ := d'
  have updates : updated = updated' :=
    (List.pairwise_map.1 h.updated_ascend).eq_of_mem_iff (List.pairwise_map.1 h'.updated_ascend)
      fun u => (h.updated u.1 u.2).trans (h'.updated u.1 u.2).symm
  obtain rfl : missing = missing' := h.missing_ascend.eq_of_mem_iff h'.missing_ascend fun id =>
    (h.missing id).trans (h'.missing id).symm
  obtain rfl : extra = extra' := h.extra_ascend.eq_of_mem_iff h'.extra_ascend fun id =>
    (h.extra id).trans (h'.extra id).symm
  rw [updates]

/-- Exchanging the listings exchanges the sides of their difference. -/
theorem IsDifference.exchanged (h : IsDifference store index d) :
    IsDifference index store d.exchanged where
  missing := h.extra
  extra := h.missing
  updated id pair := by
    have twice (id : String) (pair : FreshnessPair) :
        (id, pair) ∈ d.exchanged.updated ↔ (id, pair.exchanged) ∈ d.updated := by
      simp only [Drift.exchanged, List.mem_map, Prod.mk.injEq]
      constructor
      · rintro ⟨u, mem, rfl, rfl⟩
        exact mem
      · exact fun mem => ⟨_, mem, rfl, rfl⟩
    rw [twice, h.updated]
    exact ⟨fun ⟨stored, indexed, differs⟩ => ⟨indexed, stored, differs.symm⟩,
      fun ⟨indexed, stored, differs⟩ => ⟨stored, indexed, differs.symm⟩⟩
  missing_ascend := h.extra_ascend
  extra_ascend := h.missing_ascend
  updated_ascend := by
    rw [Drift.exchanged, Keyed.keys, List.map_map]
    exact h.updated_ascend

/-- A difference depends on nothing but what the listings give. -/
theorem IsDifference.congr (h : IsDifference store index d)
    (same : ∀ id, given? id store = given? id store')
    (same' : ∀ id, given? id index = given? id index') : IsDifference store' index' d := by
  have listed {a b : List Freshness} (same : ∀ id, given? id a = given? id b) (id : String) :
      id ∈ a.map (·.1) ↔ id ∈ b.map (·.1) := by
    rw [← isSome_given?, ← isSome_given?, same]
  constructor
  case missing => exact fun id => by rw [h.missing, listed same, listed same']
  case extra => exact fun id => by rw [h.extra, listed same, listed same']
  case updated => exact fun id pair => by rw [h.updated, same, same']
  case missing_ascend => exact h.missing_ascend
  case extra_ascend => exact h.extra_ascend
  case updated_ascend => exact h.updated_ascend

/-- An id that is updated is in both listings. -/
theorem IsDifference.mem_of_updated (h : IsDifference store index d)
    (updated : id ∈ Keyed.keys d.updated) : id ∈ index.map (·.1) ∧ id ∈ store.map (·.1) := by
  obtain ⟨⟨id, pair⟩, mem, rfl⟩ := List.mem_map.1 updated
  obtain ⟨indexed, stored, -⟩ := (h.updated id pair).1 mem
  rw [← isSome_given?, ← isSome_given?, indexed, stored]
  exact ⟨rfl, rfl⟩

/-- No id is named twice. -/
theorem IsDifference.disjoint (h : IsDifference store index d) :
    d.missing.Disjoint d.extra ∧ d.missing.Disjoint (Keyed.keys d.updated) ∧
      d.extra.Disjoint (Keyed.keys d.updated) :=
  ⟨fun id missing extra => ((h.missing id).1 missing).2 ((h.extra id).1 extra).1,
    fun id missing updated => ((h.missing id).1 missing).2 (h.mem_of_updated updated).1,
    fun id extra updated => ((h.extra id).1 extra).2 (h.mem_of_updated updated).2⟩

/-- Ids that are listed in order are written in the order of the listing. -/
theorem idsToIndex_of_pairwise {ids : List String}
    (listed : d.missing ++ Keyed.keys d.updated = ids) (ascending : ids.Pairwise (· ≤ ·)) :
    d.idsToIndex = ids := by
  rw [idsToIndex, listed]
  exact List.mergeSort_of_pairwise (ascending.imp fun le => by simpa using le)

/-- The ids that are to be written ascend, each of them once. -/
theorem IsDifference.idsToIndex_ascend (h : IsDifference store index d) :
    d.idsToIndex.Pairwise (· < ·) := by
  have distinct : d.idsToIndex.Nodup := by
    rw [idsToIndex, (List.mergeSort_perm _ _).nodup_iff]
    exact h.missing_ascend.nodup.append h.updated_ascend.nodup h.disjoint.2.1
  have sorted : d.idsToIndex.Pairwise (· ≤ ·) := by
    have merged : d.idsToIndex.Pairwise fun a b => decide (a ≤ b) = true := by
      apply List.pairwise_mergeSort
      · exact fun a b c => by simpa using String.le_trans
      · exact fun a b => by simpa using String.le_total a b
    exact merged.imp fun le => by simpa using le
  exact sorted.imp₂ (fun a b le ne => lt_of_le_of_ne le ne) distinct

/-- Listings that give the same have no difference, and no others. -/
theorem isDifference_empty_iff :
    IsDifference store index {} ↔ ∀ id, given? id store = given? id index := by
  constructor
  · intro h id
    have missing := h.missing id
    have extra := h.extra id
    simp only [← isSome_given?, List.not_mem_nil, false_iff, not_and, not_not] at missing extra
    cases stored : given? id store with
    | none =>
      cases indexed : given? id index with
      | none => rfl
      | some t => simp [stored, indexed] at extra
    | some s =>
      cases indexed : given? id index with
      | none => simp [stored, indexed] at missing
      | some t =>
        by_contra differs
        cases (h.updated id ⟨t, s⟩).2 ⟨indexed, stored, fun eq => differs (congrArg some eq.symm)⟩
  · intro same
    have listed (id : String) : id ∈ store.map (·.1) ↔ id ∈ index.map (·.1) := by
      rw [← isSome_given?, ← isSome_given?, same]
    constructor
    case missing => simp [listed]
    case extra => simp [listed]
    case updated =>
      intro id pair
      refine ⟨fun mem => (List.not_mem_nil mem).elim, fun entry => ?_⟩
      obtain ⟨indexed, stored, differs⟩ := entry
      rw [same, indexed] at stored
      exact absurd (Option.some.inj stored) differs
    all_goals exact .nil

/-- A difference is empty just if both listings give the same. -/
theorem IsDifference.isClean_iff (h : IsDifference store index d) :
    d.isClean = true ↔ ∀ id, given? id store = given? id index := by
  have empty : d.isClean = true ↔ d = {} := by
    obtain ⟨missing, extra, updated⟩ := d
    simp [isClean, and_assoc]
  rw [empty, ← isDifference_empty_iff]
  exact ⟨fun none => none ▸ h, fun none => h.unique none⟩

/-- Two listings with the same entries, where those of one id stand in the same order. -/
def Reordered (a b : List Freshness) : Prop :=
  ∀ id, (a.filter fun e => e.1 = id) = b.filter fun e => e.1 = id

theorem Reordered.given? {a b : List Freshness} (h : Reordered a b) (id : String) :
    given? id a = given? id b := by
  rw [Drift.given?, Drift.given?, h id]

/-- Entries of different ids may change places. -/
theorem reordered_swap (before after : List Freshness) {e f : Freshness} (different : e.1 ≠ f.1) :
    Reordered (before ++ e :: f :: after) (before ++ f :: e :: after) := by
  intro id
  rw [List.filter_append, List.filter_append, List.append_cancel_left_eq]
  by_cases first : e.1 = id
  · have second : f.1 ≠ id := fun same => different (first.trans same.symm)
    simp [first, second]
  · by_cases second : f.1 = id <;> simp [first, second]

/-- What is reported about two listings is their one difference, sorted by ids; it is empty just if
both give the same; the order of entries with different ids does not matter; and exchanging the
listings exchanges its sides. -/
theorem between_exact (store index : List Freshness) :
    IsDifference store index (between store index) ∧
    ((between store index).missing.Disjoint (between store index).extra ∧
      (between store index).missing.Disjoint (Keyed.keys (between store index).updated) ∧
      (between store index).extra.Disjoint (Keyed.keys (between store index).updated)) ∧
    ((between store index).idsToIndex.map Text.utf8).Pairwise (· < ·) ∧
    (between store index).idsToIndex.Perm
      ((between store index).missing ++ Keyed.keys (between store index).updated) ∧
    ((between store index).isClean = true ↔ ∀ id, given? id store = given? id index) ∧
    (∀ store' index', Reordered store store' → Reordered index index' →
      between store' index' = between store index) ∧
    between index store = (between store index).exchanged := by
  have difference := isDifference_between store index
  refine ⟨difference, difference.disjoint, ?_, List.mergeSort_perm _ _, difference.isClean_iff,
    fun store' index' stores indexes => ?_, ?_⟩
  · exact List.pairwise_map.2
      (difference.idsToIndex_ascend.imp fun less => Text.utf8_lt_utf8_iff.2 less)
  · exact (isDifference_between store' index').unique
      (difference.congr stores.given? indexes.given?)
  · exact (isDifference_between index store).unique difference.exchanged

/-- The later of two entries of one id counts, wherever an entry of another id stands between
them. -/
theorem between_exact_swapped :
    Reordered [("b", none), ("a", none), ("b", some "2024-05-01")]
      [("a", none), ("b", none), ("b", some "2024-05-01")] ∧
    between [("a", none), ("b", none), ("b", some "2024-05-01")] [("b", some ""), ("c", none)] =
      between [("b", none), ("a", none), ("b", some "2024-05-01")] [("b", some ""), ("c", none)] ∧
    between [("b", none), ("a", none), ("b", some "2024-05-01")] [("b", some ""), ("c", none)] =
      ⟨["a"], ["c"], [("b", ⟨"", "2024-05-01T00:00:00.000000+00:00"⟩)]⟩ := by
  have swapped := reordered_swap [] [("b", some "2024-05-01")]
    (e := ("b", none)) (f := ("a", none)) (by decide)
  have result := between_exact [("b", none), ("a", none), ("b", some "2024-05-01")]
    [("b", some ""), ("c", none)]
  exact ⟨swapped, result.2.2.2.2.2.1 _ _ swapped fun _ => rfl, by decide +kernel⟩

end Drift

end CatalogSearch
