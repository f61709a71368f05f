import CatalogSearch.Document
import CatalogSearch.Drift
import CatalogSearch.Keyed.Lookup
import CatalogSearch.Proofs.Time.NormalForm
import Mathlib.Data.List.Sort

/-!
# Drift between two listings

When two listings do not differ. Only normal forms are compared, so a listing of records and the
listing of their documents never differ: the freshness of a document is the normal form of what
its record says, and a normal form is its own.
-/
namespace CatalogSearch.Drift

/-- Sorted by insertion, the ids can be computed. -/
theorem idsToIndex_eq_insertionSort (d : Drift) :
    d.idsToIndex = (d.missing ++ Keyed.keys d.updated).insertionSort (· ≤ ·) :=
  List.mergeSort_eq_insertionSort ..

theorem length_idsToIndex (d : Drift) :
    d.idsToIndex.length = d.missing.length + d.updated.length := by
  rw [idsToIndex, List.length_mergeSort, List.length_append, Keyed.keys, List.length_map]

/-- The keys of a listing in normal form ascend. -/
theorem ascending_normalized (listing : List Freshness) : Keyed.Ascending (normalized listing) :=
  Keyed.ascending_ofList _

/-- Listings with one normal form do not differ. -/
theorem isClean_between {store index : List Freshness} (h : normalized store = normalized index) :
    (between store index).isClean = true := by
  have found : ∀ e ∈ normalized index, Keyed.find? e.1 (normalized index) = some e.2 :=
    fun e he => Keyed.find?_of_mem (ascending_normalized index) he
  have contained : ∀ e ∈ normalized index, Keyed.contains e.1 (normalized index) = true :=
    fun e he => by rw [Keyed.contains, found e he]; rfl
  have hkeys : (normalized index).filter (fun e => !Keyed.contains e.1 (normalized index)) = [] :=
    List.filter_eq_nil_iff.2 fun e he => by simp [contained e he]
  have hupdated : (between store index).updated = [] := by
    simp only [between, h]
    refine List.filterMap_eq_nil_iff.2 fun e he => ?_
    simp [found e he]
  have hmissing : (between store index).missing = [] := by
    simp only [between, h, hkeys]
    rfl
  have hextra : (between store index).extra = [] := by
    simp only [between, h, hkeys]
    rfl
  simp [isClean, hmissing, hextra, hupdated]

/-- Records and their documents are listed alike in normal form. -/
theorem normalized_documents (records : List Record) :
    normalized (records.map fun r =>
        ((Document.ofRecord r).id, (Document.ofRecord r).lastHarvested)) =
      normalized (records.map fun r => (r.id, r.lastHarvested)) := by
  simp only [normalized, List.map_map]
  refine congrArg Keyed.ofList (List.map_congr_left fun r _ => ?_)
  exact Prod.ext rfl (Time.normalize_bind_toUtc r.lastHarvested)

/-- A normal form is that of no absent timestamp and its own normal form, and hence what was just
indexed is no drift. -/
theorem indexed_never_drifts :
    (∀ raw s : String, Time.toUtc raw = some s → s ≠ Time.absent ∧ Time.toUtc s = some s) ∧
    ∀ records : List Record,
      (between (records.map fun r => (r.id, r.lastHarvested))
        (records.map fun r =>
          ((Document.ofRecord r).id, (Document.ofRecord r).lastHarvested))).isClean = true :=
  ⟨fun _ _ h => Time.toUtc_normal h,
    fun records => isClean_between (normalized_documents records).symm⟩

/-- The last leap second of the year 9999 west of Greenwich falls into a year of five digits, whose
signed text is in none of the layouts. -/
theorem indexed_never_drifts_leap_second :
    Time.toUtc "9999-12-31 23:59:60-01:00" = some "+10000-01-01T00:59:60.000000+00:00" ∧
    Time.toUtc "+10000-01-01T00:59:60.000000+00:00" =
      some "+10000-01-01T00:59:60.000000+00:00" := by
  have h : Time.toUtc "9999-12-31 23:59:60-01:00" =
      some "+10000-01-01T00:59:60.000000+00:00" := by decide +kernel
  exact ⟨h, (indexed_never_drifts.1 _ _ h).2⟩

end CatalogSearch.Drift
