import CatalogSearch.Keyed.Lookup
import CatalogSearch.Store.Memory
import CatalogSearch.Sync

/-!
# Sound stores and their pages

A store in memory keeps its records in ascending order under their own ids. Pages in a row tile
the records: each page is what stands between its offset and that of the next, and as many pages
as are counted leave nothing over.
-/
namespace CatalogSearch

/-- The documents of some records have the ids of the records. -/
theorem Document.ids_ofRecord (records : List Record) :
    (records.map Document.ofRecord).map (·.id) = records.map (·.id) := by
  rw [List.map_map]
  rfl

namespace Store.Memory

/-- A store as it can come about. -/
structure Sound (m : Memory) : Prop where
  ascending : Keyed.Ascending m.records
  keyed : ∀ e ∈ m.records, e.2.id = e.1

variable {m : Memory}

theorem sound_initial : Sound {} := ⟨.nil, by simp⟩

theorem Sound.insert (h : Sound m) (r : Record) : Sound (m.insert r) where
  ascending := Keyed.ascending_insert r.id r h.ascending
  keyed e he := by
    rcases Keyed.mem_insert he with rfl | he
    · rfl
    · exact h.keyed e he

theorem Sound.remove (h : Sound m) (id : String) : Sound (m.remove id) where
  ascending := Keyed.ascending_erase id h.ascending
  keyed e he := h.keyed e ((Keyed.erase_sublist id m.records).subset he)

theorem Sound.touch (h : Sound m) (id : String) (freshness : Option String) :
    Sound (m.touch id freshness) where
  ascending := Keyed.ascending_adjust id _ h.ascending
  keyed e he := by
    rcases Keyed.mem_adjust he with ⟨r, hr, rfl⟩ | he
    · exact h.keyed (id, r) hr
    · exact h.keyed e he

/-- A store of records of which nothing but the ids matters. -/
def ofIds (ids : List String) : Memory :=
  ids.foldl (fun m id => m.insert { (default : Record) with id := id }) {}

theorem sound_ofIds (ids : List String) : Sound (ofIds ids) := by
  have grow (m : Memory) (h : Sound m) :
      Sound (ids.foldl (fun m id => m.insert { (default : Record) with id := id }) m) := by
    induction ids generalizing m with
    | nil => exact h
    | cons id rest ih => exact ih _ (h.insert _)
  exact grow {} sound_initial

/-- Every record stands under its id. -/
theorem Sound.records_eq (h : Sound m) : m.records = m.all.map fun r => (r.id, r) := by
  rw [all, Keyed.values, List.map_map]
  refine (List.map_id m.records).symm.trans (List.map_congr_left fun e he => ?_)
  exact Prod.ext (h.keyed e he).symm rfl

/-- The ids of the records ascend. -/
theorem Sound.ids_ascend (h : Sound m) : m.all.Pairwise fun a b => a.id < b.id := by
  have hascending := h.ascending
  rw [h.records_eq, Keyed.Ascending, List.pairwise_map] at hascending
  exact hascending

/-- A record is found under its id. -/
theorem Sound.find?_of_mem (h : Sound m) {r : Record} (hr : r ∈ m.all) :
    Keyed.find? r.id m.records = some r := by
  refine Keyed.find?_of_mem h.ascending (e := (r.id, r)) ?_
  rw [h.records_eq]
  exact List.mem_map_of_mem hr

/-- A record under the id of a record of a store is this record. -/
theorem Sound.eq_of_id (h : Sound m) {r s : Record} (hr : r ∈ m.all) (hs : s ∈ m.all)
    (hid : s.id = r.id) : s = r := by
  have hfound := h.find?_of_mem hs
  rw [hid, h.find?_of_mem hr] at hfound
  exact (Option.some.inj hfound).symm

theorem length_all (m : Memory) : m.all.length = m.records.length := List.length_map ..

/-- The records of `count` pages from `page` on; pages are counted from one. -/
def pages (m : Memory) (page size count : Nat) : List Record :=
  (m.all.drop ((page - 1) * size)).take (count * size)

/-- A page whose offset 64 bits can count stands where its number says. -/
theorem answer_page_of_le {page size : Nat} (within : (page - 1) * size ≤ wordLimit) :
    m.answer (.page page size) = .ok (m.pages page size 1) := by
  rw [answer, pages, pageOffset, Nat.one_mul, Nat.min_eq_left within]

/-- A page of a store that 64 bits can count stands where its number says. -/
theorem answer_page (fits : m.records.length ≤ wordLimit) (page size : Nat) :
    m.answer (.page page size) = .ok (m.pages page size 1) := by
  by_cases hoffset : (page - 1) * size ≤ wordLimit
  · exact answer_page_of_le hoffset
  · have hpast : m.all.length ≤ wordLimit := by rw [length_all]; exact fits
    rw [answer, pages, pageOffset, Nat.one_mul, Nat.min_eq_right (by omega),
      List.drop_eq_nil_of_le hpast, List.drop_eq_nil_of_le (by omega)]

/-- The records of some pages are those of the first and those of the others. -/
theorem pages_succ (m : Memory) {page : Nat} (hpage : 1 ≤ page) (size count : Nat) :
    m.pages page size (count + 1) = m.pages page size 1 ++ m.pages (page + 1) size count := by
  obtain ⟨before, rfl⟩ : ∃ before, page = before + 1 := ⟨page - 1, by omega⟩
  simp only [pages, Nat.add_sub_cancel, Nat.one_mul]
  rw [Nat.succ_mul, Nat.add_comm (count * size), List.take_add, List.drop_drop, ← Nat.succ_mul]

/-- The records from a page on, where page zero is the first one as well. -/
def fromPage (m : Memory) (startPage size : Nat) : List Record :=
  m.all.drop ((max startPage 1 - 1) * size)

/-- From any page on, as many pages as are counted hold all the records that are left. -/
theorem pages_all (m : Memory) (startPage : Nat) {size : Nat} (hsize : 1 ≤ size) :
    m.pages (max startPage 1) size
        (Sync.pageCount m.records.length size + 1 - max startPage 1) =
      m.fromPage startPage size := by
  have hstart : 1 ≤ max startPage 1 := Nat.le_max_right startPage 1
  unfold fromPage
  generalize max startPage 1 = start at hstart ⊢
  refine List.take_of_length_le ?_
  rw [List.length_drop, length_all]
  have hdiv := Nat.div_add_mod (m.records.length + size - 1) size
  have hmod := Nat.mod_lt (m.records.length + size - 1) (by omega : size > 0)
  obtain ⟨before, rfl⟩ : ∃ before, start = before + 1 := ⟨start - 1, by omega⟩
  unfold Sync.pageCount
  generalize (m.records.length + size - 1) / size = counted at hdiv ⊢
  rw [Nat.add_sub_cancel, Nat.add_sub_add_right, Nat.sub_mul, Nat.mul_comm counted]
  omega

theorem pages_sublist (m : Memory) (page size count : Nat) :
    (m.pages page size count).Sublist m.all :=
  (List.take_sublist _ _).trans (List.drop_sublist _ _)

/-- Records of a store have different ids. -/
theorem Sound.nodup_ids (h : Sound m) {records : List Record} (hsub : records.Sublist m.all) :
    (records.map (·.id)).Nodup := by
  refine List.pairwise_map.2 ((h.ids_ascend.sublist hsub).imp fun {a b} hlt heq => ?_)
  rw [heq] at hlt
  exact String.lt_irrefl b.id hlt

/-- Records of a store have documents with different ids. -/
theorem Sound.distinct_documents (h : Sound m) {records : List Record}
    (hsub : records.Sublist m.all) :
    ((records.map Document.ofRecord).map (·.id)).Nodup := by
  rw [Document.ids_ofRecord]
  exact h.nodup_ids hsub

end Store.Memory

end CatalogSearch
