import CatalogSearch.Proofs.Store.Pages
import CatalogSearch.Proofs.Store.Windows
import Mathlib.Data.List.Sort

/-!
# Tables that answer like a store in memory

Tables show the records of a store in memory if their dataset rows are the rows of these records
and what a row refers to reads as the record has it. Such tables answer every question as the store
in memory does, apart from pages that begin behind the end and from the order in which the records
of some ids are returned.
-/
namespace CatalogSearch.Store

/-- The tables hold the records of a store in memory. -/
structure Shows (t : Tables) (m : Memory) : Prop where
  sound : m.Sound
  datasets : t.datasets = m.records.map fun e => (e.1, DatasetRow.ofRecord e.2)
  organizations : ∀ r ∈ m.all,
    Keyed.find? r.organization.id t.organizations = some r.organization
  sources : ∀ r ∈ m.all, ∀ source ∈ r.harvestSource,
    Keyed.find? source.id t.harvestSources = some source.name
  readable : ∀ r ∈ m.all, Json.parse r.dcat.print = .ok r.dcat

def joinedRow (r : Record) : String × DatasetRow × Organization :=
  (r.id, .ofRecord r, r.organization)

namespace Shows

variable {t : Tables} {m : Memory}

theorem rows_eq (h : Shows t m) :
    t.datasets = m.all.map fun r => (r.id, DatasetRow.ofRecord r) := by
  rw [h.datasets, h.sound.records_eq, List.map_map]
  rfl

/-- Every dataset finds its organization. -/
theorem joined_eq (h : Shows t m) : t.joined = m.all.map joinedRow := by
  rw [Tables.joined, h.rows_eq, List.filterMap_map]
  refine (List.filterMap_congr fun r mem => ?_).trans (congrFun List.filterMap_eq_map m.all)
  exact congrArg (Option.map fun org => (r.id, DatasetRow.ofRecord r, org))
    (h.organizations r mem)

/-- A row reads as its record. -/
theorem recordOf_eq (h : Shows t m) {r : Record} (mem : r ∈ m.all) :
    t.recordOf r.id (.ofRecord r) r.organization = .ok r := by
  have dcat : Json.parse (DatasetRow.ofRecord r).dcat = .ok r.dcat := h.readable r mem
  have source : ((DatasetRow.ofRecord r).harvestSourceId.bind fun id =>
      (Keyed.find? id t.harvestSources).map fun name => (⟨id, name⟩ : HarvestSource)) =
        r.harvestSource := by
    cases found : r.harvestSource with
    | none => simp [DatasetRow.ofRecord, found]
    | some source =>
      have named := h.sources r mem source found
      simp [DatasetRow.ofRecord, found, named]
  rw [Tables.recordOf, dcat]
  simp only [source]
  rfl

/-- Rows of some records read as these. -/
theorem recordsOf_eq (h : Shows t m) {records : List Record} (sub : ∀ r ∈ records, r ∈ m.all) :
    t.recordsOf (records.map joinedRow) = .ok records := by
  induction records with
  | nil => rfl
  | cons r more ih =>
    have here := h.recordOf_eq (sub r List.mem_cons_self)
    have there := ih fun s mem => sub s (List.mem_cons_of_mem _ mem)
    rw [Tables.recordsOf] at there ⊢
    rw [List.map_cons, List.mapM_cons, there]
    simp only [joinedRow, here]
    rfl

theorem countAll (h : Shows t m) : t.answer .countAll = m.answer .countAll := by
  simp only [Tables.answer, Memory.answer, h.datasets, List.length_map]

theorem listing (h : Shows t m) : t.answer .listing = m.answer .listing := by
  simp only [Tables.answer, Memory.answer, h.rows_eq, List.map_map]
  rfl

/-- One record is found if it is the first one that satisfies a condition on its id and row. -/
theorem findOne_eq (h : Shows t m) (p : String → DatasetRow → Bool) :
    t.findOne p = .ok (m.all.find? fun r => p r.id (.ofRecord r)) := by
  have first : t.joined.find? (fun e => p e.1 e.2.1) =
      (m.all.find? fun r => p r.id (.ofRecord r)).map joinedRow := by
    rw [h.joined_eq, List.find?_map]
    rfl
  rw [Tables.findOne, first]
  cases found : m.all.find? fun r => p r.id (.ofRecord r) with
  | none => rfl
  | some r =>
    have read := h.recordOf_eq (List.mem_of_find?_eq_some found)
    simp only [Option.map_some, joinedRow, read]
    rfl

theorem findBySlug (h : Shows t m) (slug : String) :
    t.answer (.findBySlug slug) = m.answer (.findBySlug slug) := by
  exact h.findOne_eq fun _ row => row.slug = slug

/-- What is found under an id is the first record with it. -/
theorem find?_records (sound : m.Sound) (id : String) :
    Keyed.find? id m.records = m.all.find? fun r => r.id = id := by
  rw [sound.records_eq]
  generalize m.all = records
  induction records with
  | nil => rfl
  | cons r more ih =>
    rw [List.map_cons, Keyed.find?, List.find?_cons]
    by_cases same : r.id = id
    · simp [same]
    · simp [same, ih]

theorem findById (h : Shows t m) (id : String) :
    t.answer (.findById id) = m.answer (.findById id) := by
  have found := h.findOne_eq fun i _ => i = id
  rw [← find?_records h.sound] at found
  exact found

/-- A page that begins before the end or right behind it. -/
theorem page (h : Shows t m) {number size : Nat} (word : size ≤ wordLimit)
    (few : m.records.length < twoTo 63) (begins : (number - 1) * size ≤ m.records.length) :
    t.answer (.page number size) = m.answer (.page number size) := by
  have offset : pageOffset number size = (number - 1) * size := by
    have limit := Tables.wordLimit_eq
    exact Nat.min_eq_left (by omega)
  have length : (m.all.map joinedRow).length = m.records.length := by
    rw [List.length_map, Memory.length_all]
  have part : ∀ r ∈ (m.all.drop ((number - 1) * size)).take size, r ∈ m.all := fun r mem =>
    List.mem_of_mem_drop (List.mem_of_mem_take mem)
  simp only [Tables.answer, Memory.answer]
  rw [offset, h.joined_eq, Tables.window_eq word (by omega) (by omega), ← List.map_drop,
    ← List.map_take, h.recordsOf_eq part]

def recordsWith (m : Memory) (ids : List String) : List Record :=
  m.all.filter fun r => ids.contains r.id

theorem mem_recordsWith {ids : List String} {r : Record} :
    r ∈ recordsWith m ids ↔ r ∈ m.all ∧ r.id ∈ ids := by
  simp [recordsWith]

theorem recordsOf_rowsOf (h : Shows t m) (ids : List String) :
    t.recordsOf (t.rowsOf ids) = .ok (recordsWith m ids) := by
  have rows : t.rowsOf ids = (recordsWith m ids).map joinedRow := by
    rw [Tables.rowsOf, h.joined_eq, List.filter_map]
    rfl
  rw [rows]
  exact h.recordsOf_eq fun r mem => (mem_recordsWith.1 mem).1

/-- A record that is found under an id is one of the records and has that id. -/
theorem find?_eq_some_iff (sound : m.Sound) {id : String} {r : Record} :
    Keyed.find? id m.records = some r ↔ r ∈ m.all ∧ r.id = id := by
  constructor
  · intro found
    rw [find?_records sound] at found
    exact ⟨List.mem_of_find?_eq_some found, by simpa using List.find?_some found⟩
  · rintro ⟨mem, rfl⟩
    exact sound.find?_of_mem mem

theorem mem_filterMap_find? (sound : m.Sound) {ids : List String} {r : Record} :
    r ∈ (ids.filterMap fun id => Keyed.find? id m.records) ↔ r ∈ m.all ∧ r.id ∈ ids := by
  simp only [List.mem_filterMap, find?_eq_some_iff sound]
  constructor
  · rintro ⟨id, listed, mem, rfl⟩
    exact ⟨mem, listed⟩
  · rintro ⟨mem, listed⟩
    exact ⟨r.id, listed, mem, rfl⟩

/-- The records of ascending ids are found one by one in the same order. -/
theorem recordsWith_of_ascending (sound : m.Sound) {ids : List String}
    (ascending : ids.Pairwise (· < ·)) :
    recordsWith m ids = ids.filterMap fun id => Keyed.find? id m.records := by
  have filtered : (recordsWith m ids).Pairwise fun a b => a.id < b.id :=
    sound.ids_ascend.sublist List.filter_sublist
  have looked : (ids.filterMap fun id => Keyed.find? id m.records).Pairwise
      fun a b => a.id < b.id := by
    rw [List.pairwise_filterMap]
    refine ascending.imp fun {a b} less r foundR s foundS => ?_
    rw [((find?_eq_some_iff sound).1 foundR).2, ((find?_eq_some_iff sound).1 foundS).2]
    exact less
  have irreflexive : Std.Irrefl fun a b : Record => a.id < b.id :=
    ⟨fun a => String.lt_irrefl a.id⟩
  have antisymmetric : Std.Antisymm fun a b : Record => a.id < b.id :=
    ⟨fun a b less greater => absurd (String.lt_trans less greater) (String.lt_irrefl a.id)⟩
  refine filtered.eq_of_mem_iff looked fun r => ?_
  rw [mem_recordsWith, mem_filterMap_find? sound]

/-- Looked up in parts, the records of some ids are those that have one of the ids; of ascending
ids they come in the order of the ids. -/
theorem recordsInParts_eq (h : Shows t m) (fuel : Nat) (ids : List String)
    (enough : ids.length ≤ fuel) : ∃ records, t.recordsInParts fuel ids = .ok records ∧
      (∀ r, r ∈ records ↔ r ∈ m.all ∧ r.id ∈ ids) ∧
      (ids.Pairwise (· < ·) → records = ids.filterMap fun id => Keyed.find? id m.records) := by
  induction fuel generalizing ids with
  | zero =>
    obtain rfl : ids = [] := List.length_eq_zero_iff.1 (by omega)
    exact ⟨[], rfl, by simp, by simp⟩
  | succ fuel ih =>
    by_cases empty : ids = []
    · subst empty
      exact ⟨[], rfl, by simp, by simp⟩
    have split : ids.take Tables.idsPerQuery ++ ids.drop Tables.idsPerQuery = ids :=
      List.take_append_drop ..
    have shorter : (ids.drop Tables.idsPerQuery).length ≤ fuel := by
      have some : 0 < ids.length := List.length_pos_iff.2 empty
      rw [List.length_drop, Tables.idsPerQuery]
      omega
    obtain ⟨later, parts, members, ordered⟩ := ih _ shorter
    have here := h.recordsOf_rowsOf (ids.take Tables.idsPerQuery)
    refine ⟨recordsWith m (ids.take Tables.idsPerQuery) ++ later, ?_, fun r => ?_,
      fun ascending => ?_⟩
    · rw [Tables.recordsInParts, here, parts]
      · rfl
      · exact empty
    · have listed : r.id ∈ ids ↔
          r.id ∈ ids.take Tables.idsPerQuery ∨ r.id ∈ ids.drop Tables.idsPerQuery := by
        rw [← List.mem_append, split]
      rw [List.mem_append, mem_recordsWith, members, listed, and_or_left]
    · rw [← split, List.pairwise_append] at ascending
      obtain ⟨first, second, _⟩ := ascending
      rw [recordsWith_of_ascending h.sound first, ordered second, ← List.filterMap_append, split]

theorem findByIds (h : Shows t m) (ids : List String) :
    (ids.Pairwise (· < ·) → t.answer (.findByIds ids) = m.answer (.findByIds ids)) ∧
      ∃ found kept, t.answer (.findByIds ids) = .ok found ∧
        m.answer (.findByIds ids) = .ok kept ∧ ∀ r, r ∈ found ↔ r ∈ kept := by
  obtain ⟨found, parts, members, ordered⟩ := h.recordsInParts_eq ids.length ids (Nat.le_refl _)
  constructor
  · intro ascending
    simp only [Tables.answer, Memory.answer]
    rw [parts, ordered ascending]
  · refine ⟨found, _, parts, rfl, fun r => ?_⟩
    rw [members, mem_filterMap_find? h.sound]

end Shows

end CatalogSearch.Store
