import CatalogSearch.Proofs.Store.Upserts

/-!
# Rows

Tables as the database keeps them, whatever was done to it before. What a write changes is said on
look-ups, and a slug leads to the one dataset that has it, as its row reads.
-/
namespace CatalogSearch.Store

namespace History

/-- The newer records come first. -/
theorem sourceName_append (id : String) (newer older : History) :
    sourceName id (newer ++ older) = (newer.sourceName id).or (older.sourceName id) := by
  simp only [sourceName, List.filterMap_append, List.find?_append]
  cases (newer.filterMap Record.harvestSource).find? fun s => s.id = id with
  | none => rfl
  | some s => rfl

end History

namespace Tables

/-- No slug stands under two ids. -/
def Unique {α : Type} (slugOf : α → String) (rows : List (String × α)) : Prop :=
  ∀ a b r s, Keyed.find? a rows = some r → Keyed.find? b rows = some s → slugOf r = slugOf s → a = b

/-- Tables as the database keeps them: ids ascend, slugs are unique, and every dataset refers to an
organization that there is. -/
structure Valid (t : Tables) : Prop where
  organizationsAscend : Keyed.Ascending t.organizations
  sourcesAscend : Keyed.Ascending t.harvestSources
  datasetsAscend : Keyed.Ascending t.datasets
  organizationSlugs : Unique Organization.slug t.organizations
  datasetSlugs : Unique DatasetRow.slug t.datasets
  references : ∀ id row, Keyed.find? id t.datasets = some row →
    (Keyed.find? row.organizationId t.organizations).isSome = true

/-- A dataset has a slug. -/
def Holds (t : Tables) (id slug : String) : Prop :=
  ∃ row, Keyed.find? id t.datasets = some row ∧ row.slug = slug

variable {t : Tables} {r : Record}

theorem find?_organizations_written (id : String) :
    Keyed.find? id (t.written r).organizations =
      if r.organization.id = id then some r.organization else Keyed.find? id t.organizations :=
  Keyed.find?_insert ..

theorem find?_datasets_written (id : String) :
    Keyed.find? id (t.written r).datasets =
      if r.id = id then some (.ofRecord r) else Keyed.find? id t.datasets :=
  Keyed.find?_insert ..

theorem find?_sources_written (id : String) :
    Keyed.find? id (t.written r).harvestSources =
      (History.sourceName id [r]).or (Keyed.find? id t.harvestSources) := by
  cases source : r.harvestSource with
  | none => simp [written, History.sourceName, source]
  | some s =>
    rw [written]
    simp only [source, Keyed.find?_insert, History.sourceName]
    by_cases same : s.id = id <;> simp [source, same]

theorem holds_written (id slug : String) :
    (t.written r).Holds id slug ↔
      r.id = id ∧ r.slug = slug ∨ r.id ≠ id ∧ t.Holds id slug := by
  unfold Holds
  rw [find?_datasets_written]
  by_cases same : r.id = id <;> simp [same, DatasetRow.ofRecord]

/-- A row under a slug that no other id has keeps the slugs unique. -/
theorem Unique.insert {α : Type} {slugOf : α → String} {rows : List (String × α)}
    (unique : Unique slugOf rows) (ascending : Keyed.Ascending rows) {id : String} {row : α}
    (free : isSlugTaken slugOf id (slugOf row) rows ≠ true) :
    Unique slugOf (Keyed.insert id row rows) := by
  have other : ∀ key s, key ≠ id → Keyed.find? key rows = some s → slugOf s ≠ slugOf row :=
    fun key s ne found same => free ((isSlugTaken_iff ascending).2 ⟨key, s, ne, found, same⟩)
  intro a b p q foundA foundB same
  rw [Keyed.find?_insert] at foundA foundB
  by_cases first : id = a
  · by_cases second : id = b
    · exact first.symm.trans second
    · rw [if_pos first] at foundA
      rw [if_neg second] at foundB
      obtain rfl := Option.some.inj foundA
      exact absurd same.symm (other b q (Ne.symm second) foundB)
  · by_cases second : id = b
    · rw [if_neg first] at foundA
      rw [if_pos second] at foundB
      obtain rfl := Option.some.inj foundB
      exact absurd same (other a p (Ne.symm first) foundA)
    · rw [if_neg first] at foundA
      rw [if_neg second] at foundB
      exact unique a b p q foundA foundB same

namespace Valid

theorem empty : Valid {} := by
  constructor
  · exact .nil
  · exact .nil
  · exact .nil
  · intro a b o p found
    cases found
  · intro a b r s found
    cases found
  · intro id row found
    cases found

theorem written (h : t.Valid) (free : ¬ t.Blocks r) : (t.written r).Valid := by
  constructor
  · exact Keyed.ascending_insert _ _ h.organizationsAscend
  · unfold Tables.written
    cases r.harvestSource with
    | none => exact h.sourcesAscend
    | some source => exact Keyed.ascending_insert _ _ h.sourcesAscend
  · exact Keyed.ascending_insert _ _ h.datasetsAscend
  · exact h.organizationSlugs.insert h.organizationsAscend fun taken => free (.inl taken)
  · exact h.datasetSlugs.insert h.datasetsAscend fun taken => free (.inr taken)
  · intro id row found
    rw [find?_organizations_written]
    split
    · rfl
    · next other =>
      rw [find?_datasets_written] at found
      split at found
      · obtain rfl := Option.some.inj found
        exact absurd rfl other
      · exact h.references id row found

/-- Only one dataset has a slug. -/
theorem holds_unique (h : t.Valid) {a b slug : String} (first : t.Holds a slug)
    (second : t.Holds b slug) : a = b := by
  obtain ⟨r, foundA, rfl⟩ := first
  obtain ⟨s, foundB, same⟩ := second
  exact h.datasetSlugs a b r s foundA foundB same.symm

/-- Nothing blocks a record whose organization stands in the tables, if no other dataset has its
slug. -/
theorem not_blocks (h : t.Valid)
    (there : Keyed.find? r.organization.id t.organizations = some r.organization)
    (own : ∀ id, t.Holds id r.slug → id = r.id) : ¬ t.Blocks r := by
  rintro (taken | taken)
  · obtain ⟨id, o, other, found, same⟩ := (isSlugTaken_iff h.organizationsAscend).1 taken
    exact other (h.organizationSlugs _ _ _ _ found there same)
  · obtain ⟨id, row, other, found, same⟩ := (isSlugTaken_iff h.datasetsAscend).1 taken
    exact other (own id ⟨row, found, same⟩)

end Valid

theorem mem_joined {e : String × DatasetRow × Organization} :
    e ∈ t.joined ↔ (e.1, e.2.1) ∈ t.datasets ∧
      Keyed.find? e.2.1.organizationId t.organizations = some e.2.2 := by
  obtain ⟨id, row, org⟩ := e
  simp only [joined, List.mem_filterMap, Option.map_eq_some_iff, Prod.mk.injEq]
  constructor
  · rintro ⟨⟨key, value⟩, mem, o, found, rfl, rfl, rfl⟩
    exact ⟨mem, found⟩
  · rintro ⟨mem, found⟩
    exact ⟨(id, row), mem, org, found, rfl, rfl, rfl⟩

namespace Valid

/-- A slug leads to its dataset, as the row reads with its organization. -/
theorem findBySlug_of_row (h : t.Valid) {id : String} {row : DatasetRow} {org : Organization}
    (found : Keyed.find? id t.datasets = some row)
    (refers : Keyed.find? row.organizationId t.organizations = some org) :
    t.answer (.findBySlug row.slug) = (t.recordOf id row org).map some := by
  have first : t.joined.find? (fun e => decide (e.2.1.slug = row.slug)) = some (id, row, org) := by
    cases search : t.joined.find? fun e => decide (e.2.1.slug = row.slug) with
    | none =>
      have listed : (id, row, org) ∈ t.joined :=
        mem_joined.2 ⟨Keyed.mem_of_find? found, refers⟩
      exact absurd (decide_eq_true rfl) (List.find?_eq_none.1 search _ listed)
    | some e =>
      obtain ⟨key, row', org'⟩ := e
      obtain ⟨mem, refers'⟩ := mem_joined.1 (List.mem_of_find?_eq_some search)
      have same : row'.slug = row.slug := by simpa using List.find?_some search
      have found' : Keyed.find? key t.datasets = some row' :=
        Keyed.find?_of_mem h.datasetsAscend mem
      obtain rfl := h.datasetSlugs _ _ _ _ found' found same
      obtain rfl : row' = row := Option.some.inj (found'.symm.trans found)
      obtain rfl : org' = org := Option.some.inj (refers'.symm.trans refers)
      rfl
  rw [answer, findOne, first]

/-- A slug that no dataset has leads nowhere. -/
theorem findBySlug_of_not_holds (h : t.Valid) {slug : String} (unheld : ∀ id, ¬ t.Holds id slug) :
    t.answer (.findBySlug slug) = .ok none := by
  have none : t.joined.find? (fun e => decide (e.2.1.slug = slug)) = none := by
    rw [List.find?_eq_none]
    intro e mem same
    exact unheld e.1 ⟨e.2.1, Keyed.find?_of_mem h.datasetsAscend (mem_joined.1 mem).1,
      of_decide_eq_true same⟩
  rw [answer, findOne, none]

end Valid

/-- The row of a record reads as the record, with what its organization and its source read as. -/
theorem recordOf_ofRecord (readable : Json.parse r.dcat.print = .ok r.dcat) (id : String)
    (org : Organization) :
    ∃ source, t.recordOf id (.ofRecord r) org =
      .ok ⟨id, r.slug, r.dcat, org, source, r.popularity, r.lastHarvested⟩ := by
  have dcat : Json.parse (DatasetRow.ofRecord r).dcat = .ok r.dcat := readable
  rw [recordOf, dcat]
  exact ⟨_, rfl⟩

end Tables

end CatalogSearch.Store
