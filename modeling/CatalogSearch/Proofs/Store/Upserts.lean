import CatalogSearch.Proofs.Json.Reread
import CatalogSearch.Proofs.Store.Answers
import Mathlib.Data.List.Dedup

/-!
# Writing records into tables

The records written so far say what the tables hold: under each id stands the newest record with
it, under each organization the newest value with its id, whichever record brought it, and the same
holds for the names of harvest sources. A write fails exactly when a slug is in use under another
id, and then the transaction leaves nothing of it behind.
-/
namespace CatalogSearch.Store

/-- The records written so far, the newest first. -/
abbrev History : Type := List Record

namespace History

/-- The newest record with an id. -/
def latest (id : String) (history : History) : Option Record :=
  history.find? fun r => r.id = id

/-- The newest value of an organization. -/
def organization (id : String) (history : History) : Option Organization :=
  (history.map Record.organization).find? fun o => o.id = id

/-- The newest name of a harvest source. -/
def sourceName (id : String) (history : History) : Option String :=
  ((history.filterMap Record.harvestSource).find? fun s => s.id = id).map HarvestSource.name

/-- A record as it reads by now: its organization and the name of its harvest source may have been
written with other records since. -/
def shown (history : History) (r : Record) : Record :=
  { r with
    organization := (history.organization r.organization.id).getD r.organization
    harvestSource := r.harvestSource.map fun s =>
      { s with name := (history.sourceName s.id).getD s.name } }

/-- A slug of a record is in use under another id. -/
def Taken (history : History) (r : Record) : Prop :=
  (∃ id o, id ≠ r.organization.id ∧ history.organization id = some o ∧
    o.slug = r.organization.slug) ∨
  ∃ id s, id ≠ r.id ∧ history.latest id = some s ∧ s.slug = r.slug

section

variable (history : History) (r : Record) (id : String)

theorem latest_cons :
    latest id (r :: history) = if r.id = id then some r else history.latest id := by
  by_cases same : r.id = id <;> simp [latest, same]

theorem organization_cons : organization id (r :: history) =
    if r.organization.id = id then some r.organization else history.organization id := by
  by_cases same : r.organization.id = id <;> simp [organization, same]

theorem sourceName_cons_none (none : r.harvestSource = none) :
    sourceName id (r :: history) = history.sourceName id := by
  simp [sourceName, none]

theorem sourceName_cons_some {source : HarvestSource} (some : r.harvestSource = some source) :
    sourceName id (r :: history) =
      if source.id = id then Option.some source.name else history.sourceName id := by
  by_cases same : source.id = id <;> simp [sourceName, some, same]

end

theorem mem_of_latest {history : History} {id : String} {r : Record}
    (found : history.latest id = some r) : r ∈ history :=
  List.mem_of_find?_eq_some found

theorem id_of_organization {history : History} {id : String} {o : Organization}
    (found : history.organization id = some o) : o.id = id := by
  simpa using List.find?_some found

end History

namespace Tables

theorem isSlugTaken_iff {α : Type} {slugOf : α → String} {id slug : String}
    {rows : List (String × α)} (ascending : Keyed.Ascending rows) :
    isSlugTaken slugOf id slug rows = true ↔
      ∃ key row, key ≠ id ∧ Keyed.find? key rows = some row ∧ slugOf row = slug := by
  simp only [isSlugTaken, List.any_eq_true, Bool.and_eq_true, decide_eq_true_eq]
  constructor
  · rintro ⟨e, mem, other, same⟩
    exact ⟨e.1, e.2, other, Keyed.find?_of_mem ascending mem, same⟩
  · rintro ⟨key, row, other, found, same⟩
    exact ⟨(key, row), Keyed.mem_of_find? found, other, same⟩

def written (r : Record) (t : Tables) : Tables where
  organizations := Keyed.insert r.organization.id r.organization t.organizations
  harvestSources := match r.harvestSource with
    | some source => Keyed.insert source.id source.name t.harvestSources
    | none => t.harvestSources
  datasets := Keyed.insert r.id (.ofRecord r) t.datasets

/-- A slug of the record stands in a row with another id. -/
def Blocks (t : Tables) (r : Record) : Prop :=
  isSlugTaken Organization.slug r.organization.id r.organization.slug t.organizations = true ∨
    isSlugTaken DatasetRow.slug r.id r.slug t.datasets = true

/-- What a write can do: either a slug is taken, the write fails, and the tables are what they were
before it, or none is, and the record stands in all tables. -/
theorem upsert_cases (r : Record) (t : Tables) :
    (t.Blocks r ∧ ∃ failure, t.upsert r = (.error failure, t)) ∨
      (¬ t.Blocks r ∧ t.upsert r = (.ok (), t.written r)) := by
  by_cases first : isSlugTaken Organization.slug r.organization.id r.organization.slug
      t.organizations = true
  · refine .inl ⟨.inl first, slugTaken "organization", ?_⟩
    simp [upsert, transaction, statementsOf, execute, putOrganization, first]
  by_cases second : isSlugTaken DatasetRow.slug r.id r.slug t.datasets = true
  · refine .inl ⟨.inr second, slugTaken "dataset", ?_⟩
    -- the failing statement is the last one, after the other tables have changed
    cases source : r.harvestSource with
    | none =>
      simp [upsert, transaction, statementsOf, execute, putOrganization, first, putDataset,
        DatasetRow.ofRecord, second, source]
    | some s =>
      simp [upsert, transaction, statementsOf, execute, putOrganization, first, putHarvestSource,
        putDataset, DatasetRow.ofRecord, second, source]
  · refine .inr ⟨fun blocks => blocks.elim first second, ?_⟩
    cases source : r.harvestSource with
    | none =>
      simp [upsert, transaction, statementsOf, execute, putOrganization, first, putDataset,
        DatasetRow.ofRecord, second, source, written]
    | some s =>
      simp [upsert, transaction, statementsOf, execute, putOrganization, first, putHarvestSource,
        putDataset, DatasetRow.ofRecord, second, source, written]

end Tables

/-- Tables after the writes of a history. -/
structure Represents (t : Tables) (history : History) : Prop where
  organizationsAscend : Keyed.Ascending t.organizations
  datasetsAscend : Keyed.Ascending t.datasets
  organizations : ∀ id, Keyed.find? id t.organizations = history.organization id
  sources : ∀ id, Keyed.find? id t.harvestSources = history.sourceName id
  datasets : ∀ id, Keyed.find? id t.datasets = (history.latest id).map DatasetRow.ofRecord
  slugs : ∀ a b r s, history.latest a = some r → history.latest b = some s → r.slug = s.slug →
    a = b

theorem represents_empty : Represents {} [] := by
  constructor
  · exact .nil
  · exact .nil
  · exact fun _ => rfl
  · exact fun _ => rfl
  · exact fun _ => rfl
  · intro a b r s found
    cases found

namespace Represents

variable {t : Tables} {history : History}

/-- A write is blocked if the history has one of the slugs under another id. -/
theorem blocks_iff (h : Represents t history) (r : Record) : t.Blocks r ↔ history.Taken r := by
  have rows : ∀ id, (∃ row, Keyed.find? id t.datasets = some row ∧ row.slug = r.slug) ↔
      ∃ s, history.latest id = some s ∧ s.slug = r.slug := by
    intro id
    rw [h.datasets]
    constructor
    · rintro ⟨row, found, same⟩
      obtain ⟨s, newest, rfl⟩ := Option.map_eq_some_iff.1 found
      exact ⟨s, newest, same⟩
    · rintro ⟨s, newest, same⟩
      exact ⟨_, Option.map_eq_some_iff.2 ⟨s, newest, rfl⟩, same⟩
  unfold Tables.Blocks History.Taken
  rw [Tables.isSlugTaken_iff h.organizationsAscend, Tables.isSlugTaken_iff h.datasetsAscend]
  simp only [h.organizations, exists_and_left, rows]

/-- A write that succeeds makes the record part of the history. -/
theorem written (h : Represents t history) {r : Record} (free : ¬ history.Taken r) :
    Represents (t.written r) (r :: history) := by
  constructor
  · exact Keyed.ascending_insert _ _ h.organizationsAscend
  · exact Keyed.ascending_insert _ _ h.datasetsAscend
  · intro id
    rw [History.organization_cons, ← h.organizations]
    exact Keyed.find?_insert ..
  · intro id
    cases source : r.harvestSource with
    | none =>
      rw [History.sourceName_cons_none _ _ _ source, ← h.sources]
      simp only [Tables.written, source]
    | some s =>
      rw [History.sourceName_cons_some _ _ _ source, ← h.sources]
      simp only [Tables.written, source, Keyed.find?_insert]
  · intro id
    rw [History.latest_cons]
    have found := Keyed.find?_insert r.id id (DatasetRow.ofRecord r) t.datasets
    rw [h.datasets] at found
    refine found.trans ?_
    by_cases same : r.id = id <;> simp [same]
  · -- the new record is compared with those under other ids, of which none has its slug
    intro a b p q newestA newestB same
    rw [History.latest_cons] at newestA newestB
    by_cases first : r.id = a
    · by_cases second : r.id = b
      · exact first.symm.trans second
      · rw [if_pos first] at newestA
        rw [if_neg second] at newestB
        obtain rfl := Option.some.inj newestA
        exact absurd (.inr ⟨b, q, Ne.symm second, newestB, same.symm⟩) free
    · by_cases second : r.id = b
      · rw [if_neg first] at newestA
        rw [if_pos second] at newestB
        obtain rfl := Option.some.inj newestB
        exact absurd (.inr ⟨a, p, Ne.symm first, newestA, same⟩) free
      · rw [if_neg first] at newestA
        rw [if_neg second] at newestB
        exact h.slugs a b p q newestA newestB same

end Represents

/-- Try to write a record; the history grows if the write succeeds. -/
def attempt (s : Tables × History) (r : Record) : Tables × History :=
  match s.1.upsert r with
  | (.ok (), t) => (t, r :: s.2)
  | (.error _, t) => (t, s.2)

/-- Try to write records one after another, from empty tables on. -/
def attempts (records : List Record) : Tables × History :=
  records.foldl attempt ({}, [])

theorem represents_attempt {s : Tables × History} (h : Represents s.1 s.2) (r : Record) :
    Represents (attempt s r).1 (attempt s r).2 := by
  rcases s.1.upsert_cases r with ⟨_, failure, failed⟩ | ⟨free, wrote⟩
  · simpa only [attempt, failed] using h
  · rw [h.blocks_iff] at free
    simpa only [attempt, wrote] using h.written free

theorem represents_attempts (records : List Record) :
    Represents (attempts records).1 (attempts records).2 := by
  have run : ∀ s : Tables × History, Represents s.1 s.2 →
      Represents (records.foldl attempt s).1 (records.foldl attempt s).2 := by
    induction records with
    | nil => exact fun s h => h
    | cons r more ih => exact fun s h => ih _ (represents_attempt h r)
  exact run ({}, []) represents_empty

/-- Only records that were tried to write are part of the history. -/
theorem mem_of_mem_attempts {records : List Record} {r : Record}
    (mem : r ∈ (attempts records).2) : r ∈ records := by
  have run : ∀ s : Tables × History, r ∈ (records.foldl attempt s).2 → r ∈ s.2 ∨ r ∈ records := by
    clear mem
    induction records with
    | nil => exact fun s mem => .inl mem
    | cons q more ih =>
      intro s mem
      rcases ih _ mem with before | later
      · rcases s.1.upsert_cases q with ⟨_, failure, failed⟩ | ⟨_, wrote⟩
        · simp only [attempt, failed] at before
          exact .inl before
        · simp only [attempt, wrote] at before
          rcases List.mem_cons.1 before with rfl | before
          · exact .inr List.mem_cons_self
          · exact .inl before
      · exact .inr (List.mem_cons_of_mem _ later)
  rcases run ({}, []) mem with none | mem
  · cases none
  · exact mem

namespace History

/-- The store in memory that the records of a history were put into one after another. -/
def memory (history : History) : Memory :=
  history.foldr Memory.insert {}

theorem sound_memory (history : History) : history.memory.Sound := by
  induction history with
  | nil => exact Memory.sound_initial
  | cons r more ih => exact ih.insert r

theorem find?_memory (history : History) (id : String) :
    Keyed.find? id history.memory.records = history.latest id := by
  induction history with
  | nil => rfl
  | cons r more ih =>
    rw [latest_cons, ← ih]
    exact Keyed.find?_insert ..

section

variable {history : History} {r : Record} (mem : r ∈ history)

include mem

/-- A record is shown with the newest value of its organization. -/
theorem organization_shown :
    history.organization r.organization.id = some (history.shown r).organization := by
  have there : (history.organization r.organization.id).isSome = true := by
    rw [organization, List.find?_isSome]
    exact ⟨r.organization, List.mem_map_of_mem mem, by simp⟩
  obtain ⟨o, newest⟩ := Option.isSome_iff_exists.1 there
  simp [shown, newest]

theorem organization_id_shown : (history.shown r).organization.id = r.organization.id :=
  id_of_organization (organization_shown mem)

/-- A record is shown with the newest name of its harvest source. -/
theorem sourceName_shown {source : HarvestSource}
    (shows : (history.shown r).harvestSource = some source) :
    history.sourceName source.id = some source.name := by
  obtain ⟨s, own, rfl⟩ := Option.map_eq_some_iff.1 shows
  have there : (history.sourceName s.id).isSome = true := by
    rw [sourceName, Option.isSome_map, List.find?_isSome]
    exact ⟨s, List.mem_filterMap.2 ⟨r, mem, own⟩, by simp⟩
  obtain ⟨name, newest⟩ := Option.isSome_iff_exists.1 there
  simp [newest]

theorem ofRecord_shown : DatasetRow.ofRecord (history.shown r) = .ofRecord r := by
  have source : (history.shown r).harvestSource.map HarvestSource.id =
      r.harvestSource.map HarvestSource.id := by
    rw [shown, Option.map_map]
    rfl
  rw [DatasetRow.ofRecord, organization_id_shown mem, source]
  rfl

end

/-- The records that a history shows. -/
def view (history : History) : Memory :=
  ⟨history.memory.records.map fun e => (e.1, history.shown e.2)⟩

theorem find?_view (history : History) (id : String) :
    Keyed.find? id history.view.records = (history.latest id).map history.shown := by
  rw [view, Keyed.find?_map, find?_memory]

theorem sound_view (history : History) : history.view.Sound where
  ascending := Keyed.ascending_map _ history.sound_memory.ascending
  keyed e mem := by
    obtain ⟨f, inside, rfl⟩ := List.mem_map.1 mem
    exact history.sound_memory.keyed f inside

theorem mem_view {history : History} {r : Record} :
    r ∈ history.view.all ↔ ∃ id s, history.latest id = some s ∧ history.shown s = r := by
  constructor
  · intro mem
    have found := history.sound_view.find?_of_mem mem
    rw [find?_view] at found
    obtain ⟨s, newest, shows⟩ := Option.map_eq_some_iff.1 found
    exact ⟨_, s, newest, shows⟩
  · rintro ⟨id, s, newest, rfl⟩
    have found : Keyed.find? id history.view.records = some (history.shown s) := by
      rw [find?_view, newest]
      rfl
    exact (Shows.find?_eq_some_iff history.sound_view).1 found |>.1

end History

/-- Tables after a history show what the history shows. -/
theorem Represents.shows {t : Tables} {history : History} (h : Represents t history)
    (readable : ∀ r ∈ history, Json.parse r.dcat.print = .ok r.dcat) : Shows t history.view where
  sound := history.sound_view
  datasets := by
    refine Keyed.eq_of_find?_eq h.datasetsAscend
      (Keyed.ascending_map _ history.sound_view.ascending) fun id => ?_
    rw [Keyed.find?_map, History.find?_view, h.datasets]
    cases newest : history.latest id with
    | none => rfl
    | some r =>
      rw [Option.map_some, Option.map_some, Option.map_some,
        History.ofRecord_shown (History.mem_of_latest newest)]
  organizations r mem := by
    obtain ⟨id, s, newest, rfl⟩ := History.mem_view.1 mem
    have inside := History.mem_of_latest newest
    rw [h.organizations, History.organization_id_shown inside, History.organization_shown inside]
  sources r mem source shows := by
    obtain ⟨id, s, newest, rfl⟩ := History.mem_view.1 mem
    rw [h.sources, History.sourceName_shown (History.mem_of_latest newest) shows]
  readable r mem := by
    obtain ⟨id, s, newest, rfl⟩ := History.mem_view.1 mem
    exact readable s (History.mem_of_latest newest)

/-- There are as many records as ids were written. -/
theorem History.length_view (history : History) :
    history.view.records.length = (history.map Record.id).dedup.length := by
  have length : history.view.records.length = (Keyed.keys history.memory.records).length := by
    rw [History.view, List.length_map, Keyed.keys, List.length_map]
  have distinct : (Keyed.keys history.memory.records).Nodup :=
    Keyed.nodup_keys history.sound_memory.ascending
  rw [length]
  refine ((List.perm_ext_iff_of_nodup distinct (List.nodup_dedup _)).2 fun id => ?_).length_eq
  rw [List.mem_dedup, ← Decidable.not_iff_not, ← Keyed.find?_eq_none_iff, find?_memory, latest,
    List.find?_eq_none]
  simp

/-- The tables say what was written. A write fails exactly when a slug is in use under another id,
and leaves the tables as they were. After any writes, the record under an id is the newest one, as
it reads by now; the one with a slug is the only one that has it; and as many records are counted
as ids were written. -/
theorem upserts_refine_history {records : List Record} {t : Tables} {history : History}
    (ran : attempts records = (t, history)) (metadata : ∀ r ∈ records, r.dcat.IsMetadata)
    (plain : ∀ r ∈ records, r.dcat.Unembedded) :
    (∀ r, (∃ failure, (t.upsert r).1 = .error failure) ↔ history.Taken r) ∧
    (∀ r failure, (t.upsert r).1 = .error failure → (t.upsert r).2 = t) ∧
    (∀ id, t.answer (.findById id) = .ok ((history.latest id).map history.shown)) ∧
    (∀ slug, (∃ id r, history.latest id = some r ∧ r.slug = slug ∧
        (∀ other s, history.latest other = some s → s.slug = slug → other = id) ∧
        t.answer (.findBySlug slug) = .ok (some (history.shown r))) ∨
      (∀ id r, history.latest id = some r → r.slug ≠ slug) ∧
        t.answer (.findBySlug slug) = .ok none) ∧
    t.answer .countAll = .ok (history.map Record.id).dedup.length := by
  have represents : Represents t history := by
    have run := represents_attempts records
    rwa [ran] at run
  have inside : ∀ r ∈ history, r ∈ records := fun r mem => by
    refine mem_of_mem_attempts ?_
    rwa [ran]
  have shows := represents.shows fun r mem =>
    Json.parse_metadata (metadata r (inside r mem)) (plain r (inside r mem))
  refine ⟨fun r => ?_, fun r failure failed => ?_, fun id => ?_, fun slug => ?_, ?_⟩
  · rw [← represents.blocks_iff]
    rcases t.upsert_cases r with ⟨blocks, failure, failed⟩ | ⟨free, wrote⟩
    · simp [failed, blocks]
    · simp [wrote, free]
  · rcases t.upsert_cases r with ⟨_, _, same⟩ | ⟨_, wrote⟩
    · rw [same]
    · rw [wrote] at failed
      cases failed
  · rw [shows.findById, Memory.answer, History.find?_view]
  · rw [shows.findBySlug, Memory.answer]
    cases found : history.view.all.find? fun r => r.slug = slug with
    | none =>
      refine .inr ⟨fun id r newest same => ?_, rfl⟩
      have listed := History.mem_view.2 ⟨id, r, newest, rfl⟩
      exact List.find?_eq_none.1 found _ listed (decide_eq_true same)
    | some shown =>
      have mem := List.mem_of_find?_eq_some found
      have same : shown.slug = slug := by simpa using List.find?_some found
      obtain ⟨id, r, newest, rfl⟩ := History.mem_view.1 mem
      refine .inl ⟨id, r, newest, same, fun other s newer twin => ?_, rfl⟩
      exact represents.slugs other id s r newer newest (twin.trans same.symm)
  · rw [shows.countAll, Memory.answer, History.length_view]

/-- A record of one office under the office's name at the time. -/
def ofOffice (id slug name : String) (dcat : Json) : Record where
  id := id
  slug := slug
  dcat := dcat
  organization := ⟨"o", name, none, "office", none⟩
  harvestSource := none
  popularity := none
  lastHarvested := none

/-- A record, and a second one that brings a new name of the office. -/
def renamed : List Record :=
  [ofOffice "a" "x" "Old" (.obj []), ofOffice "b" "y" "New" (.obj [("title", .str "T")])]

/-- The first record is shown under the new name, and its slug is refused to another id. -/
theorem upserts_refine_history_renamed :
    (∀ r ∈ renamed, r.dcat.IsMetadata) ∧ (∀ r ∈ renamed, r.dcat.Unembedded) ∧
      ∃ t, attempts renamed = (t, renamed.reverse) ∧
        t.answer (.findById "a") = .ok (some (ofOffice "a" "x" "New" (.obj []))) ∧
        ∃ failure, (t.upsert (ofOffice "c" "x" "New" .null)).1 = .error failure := by
  have metadata : ∀ r ∈ renamed, r.dcat.IsMetadata := by
    have title : Json.IsMetadata (.obj [("title", .str "T")]) :=
      ⟨.obj (by simp [Json.Whole.str]), rfl⟩
    simpa [renamed, ofOffice] using ⟨Json.isMetadata_empty, title⟩
  have plain : ∀ r ∈ renamed, r.dcat.Unembedded := by
    have title : Json.Unembedded (.obj [("title", .str "T")]) :=
      .obj (by simp [Json.embeddedName]) (by simp [Json.Unembedded.str])
    simpa [renamed, ofOffice] using ⟨Json.unembedded_empty, title⟩
  have ran : attempts renamed = ((attempts renamed).1, renamed.reverse) := rfl
  obtain ⟨fails, _, finds, _⟩ := upserts_refine_history ran metadata plain
  refine ⟨metadata, plain, _, ran, ?_, ?_⟩
  · rw [finds]
    rfl
  · exact (fails _).2 (.inr ⟨"a", ofOffice "a" "x" "Old" (.obj []), by decide, rfl, rfl⟩)

/-- A record whose metadata begins with the name of an embedded text is written, but the row that
holds it is not read again. -/
theorem upsert_embedding :
    Json.embedding.IsMetadata ∧
      ∃ t, attempts [ofOffice "a" "x" "Old" .embedding] = (t, [ofOffice "a" "x" "Old" .embedding]) ∧
        (t.answer (.findById "a")).isOk = false :=
  ⟨Json.isMetadata_embedding, _, rfl, by decide +kernel⟩

end CatalogSearch.Store
