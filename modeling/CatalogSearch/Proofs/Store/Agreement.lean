import CatalogSearch.Proofs.Store.Upserts

/-!
# Two stores of the same records

Records that agree on their organizations and harvest sources can be spread over tables without
loss. A database into which they were all written and a store in memory into which they were all
put then give the same answers.
-/
namespace CatalogSearch.Store

/-- Records with one organization id have one organization, and records with one harvest source id
have one name of it. -/
structure Consistent (records : List Record) : Prop where
  organizations : ∀ r ∈ records, ∀ s ∈ records, r.organization.id = s.organization.id →
    r.organization = s.organization
  sources : ∀ r ∈ records, ∀ s ∈ records, ∀ p ∈ r.harvestSource, ∀ q ∈ s.harvestSource,
    p.id = q.id → p.name = q.name

def Database.upsertAll (records : List Record) (db : Database) : Except Failure Database :=
  records.foldlM (fun db r => db.upsert r) db

def Memory.insertAll (records : List Record) (m : Memory) : Memory :=
  records.foldl (fun m r => m.insert r) m

namespace History

theorem mem_of_organization {history : History} {id : String} {o : Organization}
    (found : history.organization id = some o) : ∃ r ∈ history, r.organization = o := by
  have mem := List.mem_of_find?_eq_some found
  exact List.mem_map.1 mem

theorem mem_of_sourceName {history : History} {id name : String}
    (found : history.sourceName id = some name) :
    ∃ r ∈ history, ∃ s ∈ r.harvestSource, s.id = id ∧ s.name = name := by
  obtain ⟨s, first, rfl⟩ := Option.map_eq_some_iff.1 found
  obtain ⟨r, mem, own⟩ := List.mem_filterMap.1 (List.mem_of_find?_eq_some first)
  exact ⟨r, mem, s, own, by simpa using List.find?_some first, rfl⟩

/-- Consistent records are shown as they were written. -/
theorem shown_of_consistent {history : History} (consistent : Consistent history) {r : Record}
    (mem : r ∈ history) : history.shown r = r := by
  have organization : (history.shown r).organization = r.organization := by
    obtain ⟨s, inside, same⟩ := mem_of_organization (organization_shown mem)
    rw [← same]
    apply consistent.organizations s inside r mem
    rw [same, organization_id_shown mem]
  have source : (history.shown r).harvestSource = r.harvestSource := by
    cases own : r.harvestSource with
    | none => simp only [shown, own, Option.map_none]
    | some p =>
      have shows : (history.shown r).harvestSource =
          some { p with name := (history.sourceName p.id).getD p.name } := by
        simp only [shown, own, Option.map_some]
      obtain ⟨s, inside, q, others, id, name⟩ := mem_of_sourceName (sourceName_shown mem shows)
      have same : q.name = p.name := consistent.sources s inside r mem q others p own id
      have newest : (history.sourceName p.id).getD p.name = p.name := name.symm.trans same
      rw [shows, newest]
  have parts : history.shown r = { r with
      organization := (history.shown r).organization
      harvestSource := (history.shown r).harvestSource } := rfl
  rw [parts, organization, source]

/-- The history of consistent records shows the records themselves. -/
theorem view_of_consistent {history : History} (consistent : Consistent history) :
    history.view = history.memory := by
  have same : ∀ e ∈ history.memory.records, (e.1, history.shown e.2) = e := by
    intro e mem
    have found := Keyed.find?_of_mem history.sound_memory.ascending mem
    rw [find?_memory] at found
    rw [shown_of_consistent consistent (mem_of_latest found)]
  have records : history.memory.records.map (fun e => (e.1, history.shown e.2)) =
      history.memory.records := by
    rw [List.map_congr_left same, List.map_id']
  rw [view, records]

end History

/-- If all writes succeed, the records are the history, the last one first. -/
theorem attempts_of_upsertAll {records : List Record} {db : Database}
    (wrote : Database.upsertAll records (.migrate {}) = .ok db) :
    ∃ t, db = ⟨some t⟩ ∧ attempts records = (t, records.reverse) := by
  have run : ∀ (records : List Record) (t : Tables) (history : History),
      Database.upsertAll records ⟨some t⟩ = .ok db →
      ∃ t', db = ⟨some t'⟩ ∧
        records.foldl attempt (t, history) = (t', records.reverse ++ history) := by
    intro records
    induction records with
    | nil =>
      intro t history wrote
      exact ⟨t, (Except.ok.inj wrote).symm, rfl⟩
    | cons r more ih =>
      intro t history wrote
      rw [Database.upsertAll, List.foldlM_cons] at wrote
      rcases t.upsert_cases r with ⟨_, failure, failed⟩ | ⟨_, succeeded⟩
      · simp only [Database.upsert, failed] at wrote
        cases wrote
      · simp only [Database.upsert, succeeded] at wrote
        obtain ⟨t', same, ran⟩ := ih (t.written r) (r :: history) wrote
        refine ⟨t', same, ?_⟩
        rw [List.foldl_cons, attempt]
        simp only [succeeded]
        rw [ran, List.reverse_cons, List.append_assoc]
        rfl
  obtain ⟨t, same, ran⟩ := run records {} [] wrote
  rw [List.append_nil] at ran
  exact ⟨t, same, ran⟩

/-- A database into which consistent records were all written and a store in memory into which they
were all put answer alike: they count, list and find the same records, show the same pages up to
the one behind the last record, return the same records of ascending ids, and of any ids the same
records in some order. A page size is a machine word, and the database counts its rows in 63
bits. -/
theorem stores_agree {records : List Record} {db : Database}
    (wrote : Database.upsertAll records (.migrate {}) = .ok db) (consistent : Consistent records)
    (metadata : ∀ r ∈ records, r.dcat.IsMetadata) (plain : ∀ r ∈ records, r.dcat.Unembedded) :
    db.answer .countAll = (Memory.insertAll records {}).answer .countAll ∧
    db.answer .listing = (Memory.insertAll records {}).answer .listing ∧
    (∀ id, db.answer (.findById id) = (Memory.insertAll records {}).answer (.findById id)) ∧
    (∀ slug, db.answer (.findBySlug slug) =
      (Memory.insertAll records {}).answer (.findBySlug slug)) ∧
    (∀ number size count, size ≤ wordLimit → db.answer .countAll = .ok count →
      count < twoTo 63 → (number - 1) * size ≤ count →
      db.answer (.page number size) = (Memory.insertAll records {}).answer (.page number size)) ∧
    ∀ ids, (ids.Pairwise (· < ·) → db.answer (.findByIds ids) =
        (Memory.insertAll records {}).answer (.findByIds ids)) ∧
      ∃ found kept, db.answer (.findByIds ids) = .ok found ∧
        (Memory.insertAll records {}).answer (.findByIds ids) = .ok kept ∧
        ∀ r, r ∈ found ↔ r ∈ kept := by
  obtain ⟨t, rfl, ran⟩ := attempts_of_upsertAll wrote
  have represents := represents_attempts records
  rw [ran] at represents
  have listed : Consistent records.reverse := by
    constructor
    · simpa only [List.mem_reverse] using consistent.organizations
    · simpa only [List.mem_reverse] using consistent.sources
  have memory : Memory.insertAll records {} = History.view records.reverse := by
    rw [History.view_of_consistent listed, History.memory, List.foldr_reverse]
    rfl
  have shows := represents.shows fun r mem => by
    rw [List.mem_reverse] at mem
    exact Json.parse_metadata (metadata r mem) (plain r mem)
  rw [← memory] at shows
  refine ⟨shows.countAll, shows.listing, shows.findById, shows.findBySlug,
    fun number size count word counted few begins => ?_, shows.findByIds⟩
  have length : count = (Memory.insertAll records {}).records.length := by
    have same := counted.symm.trans shows.countAll
    exact Except.ok.inj same
  rw [length] at few begins
  exact shows.page word few begins

/-- Two records of one source, put in descending order of their ids. -/
def pair : List Record :=
  [{ ofOffice "b" "y" "N" (.obj []) with harvestSource := some ⟨"h", "H"⟩ },
    { ofOffice "a" "x" "N" .null with harvestSource := some ⟨"h", "H"⟩ }]

/-- Both stores put the record with the first id on the first page. -/
theorem stores_agree_pair :
    (∃ db, Database.upsertAll pair (.migrate {}) = .ok db ∧
      db.answer (.page 1 1) = .ok (pair.drop 1)) ∧
      Consistent pair ∧ (∀ r ∈ pair, r.dcat.IsMetadata) ∧ ∀ r ∈ pair, r.dcat.Unembedded := by
  have consistent : Consistent pair := by
    constructor
    · simp [pair, ofOffice]
    · simp [pair, ofOffice]
  have metadata : ∀ r ∈ pair, r.dcat.IsMetadata := by
    have null : Json.IsMetadata .null := ⟨.null, rfl⟩
    simpa [pair, ofOffice] using ⟨Json.isMetadata_empty, null⟩
  have plain : ∀ r ∈ pair, r.dcat.Unembedded := by
    simpa [pair, ofOffice] using ⟨Json.unembedded_empty, Json.Unembedded.null⟩
  have wrote : Database.upsertAll pair (.migrate {}) = .ok _ := rfl
  obtain ⟨_, _, _, _, pages, _⟩ := stores_agree wrote consistent metadata plain
  refine ⟨⟨_, wrote, ?_⟩, consistent, metadata, plain⟩
  rw [pages 1 1 2 (by decide) rfl (by decide) (by decide)]
  rfl

/-- Of a record whose metadata begins with the name of an embedded text one store shows a page, the
other none. -/
theorem stores_disagree_embedding :
    Json.embedding.IsMetadata ∧ Consistent [ofOffice "a" "x" "N" .embedding] ∧
    ∃ db, Database.upsertAll [ofOffice "a" "x" "N" .embedding] (.migrate {}) = .ok db ∧
      (db.answer (.page 1 1)).isOk = false ∧
      (Memory.insertAll [ofOffice "a" "x" "N" .embedding] {}).answer (.page 1 1) =
        .ok [ofOffice "a" "x" "N" .embedding] := by
  refine ⟨Json.isMetadata_embedding, ?_, _, rfl, by decide +kernel, rfl⟩
  constructor
  · simp
  · simp [ofOffice]

end CatalogSearch.Store
