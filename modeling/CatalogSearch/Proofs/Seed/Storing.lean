import CatalogSearch.Proofs.Store.Rows
import CatalogSearch.Seed
import Mathlib.Data.List.Basic

/-!
# Storing the lines of a seed

Line after line is stored under its own id, under the id of the dataset that has its slug at that
moment, or under a fresh one. What a line leaves in the tables stays there unless a later line
names the same id, and a line that brings no id can be displaced in this way.
-/
namespace CatalogSearch.Seed

open Store (DatasetRow History Tables)

/-- Where an entry goes: under its own id, under the one that has its slug, or under a fresh
one. -/
inductive GoesUnder (fresh : String) (e : SeedEntry) (t : Tables) : String → Prop
  | own {id : String} (named : e.id = some id) : GoesUnder fresh e t id
  | held {id : String} (unnamed : e.id = none) (holds : t.Holds id e.record.slug) :
    GoesUnder fresh e t id
  | fresh (unnamed : e.id = none) (unheld : ∀ id, ¬ t.Holds id e.record.slug) :
    GoesUnder fresh e t fresh

/-- Tables before and after entries were stored in them, with ids of a sequence from a place on. -/
inductive Stores (ids : Nat → String) : Nat → List SeedEntry → Tables → Tables → Prop
  | done {next : Nat} {t : Tables} : Stores ids next [] t t
  | store {next : Nat} {e : SeedEntry} {rest : List SeedEntry} {t t' : Tables} {id : String}
    (goes : GoesUnder (ids next) e t id) (free : ¬ t.Blocks (e.toRecord id))
    (more : Stores ids (next + 1) rest (t.written (e.toRecord id)) t') :
    Stores ids next (e :: rest) t t'

section

variable {fresh : String} {e : SeedEntry} {t : Tables} {id : String} {db : Store.Database}

/-- The slug of an entry leads to the dataset that has it, as its row reads. -/
theorem storedId_of_row (valid : t.Valid) (unnamed : e.id = none) {row : DatasetRow}
    (found : Keyed.find? id t.datasets = some row) (same : row.slug = e.record.slug) :
    ∃ org, storedId e ⟨some t⟩ = (t.recordOf id row org).map fun r => some r.id := by
  obtain ⟨org, refers⟩ := Option.isSome_iff_exists.1 (valid.references id row found)
  have answer : (⟨some t⟩ : Store.Database).answer (.findBySlug e.record.slug) =
      (t.recordOf id row org).map some := by
    rw [← same]
    exact valid.findBySlug_of_row found refers
  refine ⟨org, ?_⟩
  rw [storedId, unnamed]
  simp only [answer]
  cases t.recordOf id row org <;> rfl

theorem storedId_of_holds (valid : t.Valid) (unnamed : e.id = none)
    (holds : t.Holds id e.record.slug) :
    (∃ failure, storedId e ⟨some t⟩ = .error failure) ∨ storedId e ⟨some t⟩ = .ok (some id) := by
  obtain ⟨row, found, same⟩ := holds
  obtain ⟨org, looked⟩ := storedId_of_row valid unnamed found same
  rw [looked, Tables.recordOf]
  cases Json.parse row.dcat with
  | error message => exact .inl ⟨_, rfl⟩
  | ok dcat => exact .inr rfl

theorem storedId_of_not_holds (valid : t.Valid) (unnamed : e.id = none)
    (unheld : ∀ id, ¬ t.Holds id e.record.slug) : storedId e ⟨some t⟩ = .ok none := by
  have answer : (⟨some t⟩ : Store.Database).answer (.findBySlug e.record.slug) = .ok none :=
    valid.findBySlug_of_not_holds unheld
  rw [storedId, unnamed]
  simp only [answer]
  rfl

/-- What storing an entry comes to once it is clear where it goes. -/
theorem storeEntry_of_storedId {found : Option String} (stored : storedId e ⟨some t⟩ = .ok found)
    (goes : (e.id <|> found).getD fresh = id) :
    (t.Blocks (e.toRecord id) ∧ ∃ failure, storeEntry fresh e ⟨some t⟩ = .error failure) ∨
      (¬ t.Blocks (e.toRecord id) ∧
        storeEntry fresh e ⟨some t⟩ = .ok ⟨some (t.written (e.toRecord id))⟩) := by
  subst goes
  unfold storeEntry
  rw [stored]
  rcases t.upsert_cases (e.toRecord ((e.id <|> found).getD fresh)) with
    ⟨blocks, failure, failed⟩ | ⟨free, wrote⟩
  · refine .inl ⟨blocks, ?_⟩
    simp only [Store.Database.upsert, bind, Except.bind, failed]
    exact ⟨_, rfl⟩
  · refine .inr ⟨free, ?_⟩
    simp only [Store.Database.upsert, bind, Except.bind, wrote]
    rfl

/-- An entry that is stored goes somewhere, and nothing blocks it there. -/
theorem storeEntry_cases (valid : t.Valid) (stored : storeEntry fresh e ⟨some t⟩ = .ok db) :
    ∃ id, GoesUnder fresh e t id ∧ ¬ t.Blocks (e.toRecord id) ∧
      db = ⟨some (t.written (e.toRecord id))⟩ := by
  have settled : ∀ {found : Option String} {id : String}, storedId e ⟨some t⟩ = .ok found →
      (e.id <|> found).getD fresh = id → GoesUnder fresh e t id →
      ∃ id, GoesUnder fresh e t id ∧ ¬ t.Blocks (e.toRecord id) ∧
        db = ⟨some (t.written (e.toRecord id))⟩ := by
    intro found id looked place goes
    rcases storeEntry_of_storedId looked place with ⟨-, failure, failed⟩ | ⟨free, wrote⟩
    · rw [failed] at stored
      cases stored
    · rw [wrote] at stored
      exact ⟨id, goes, free, (Except.ok.inj stored).symm⟩
  cases named : e.id with
  | some id =>
    have looked : storedId e ⟨some t⟩ = .ok none := by rw [storedId, named]
    exact settled looked (by simp [named]) (.own named)
  | none =>
    by_cases held : ∃ id, t.Holds id e.record.slug
    · obtain ⟨id, holds⟩ := held
      rcases storedId_of_holds valid named holds with ⟨failure, failed⟩ | looked
      · unfold storeEntry at stored
        rw [failed] at stored
        cases stored
      · exact settled looked (by simp [named]) (.held named holds)
    · have unheld : ∀ id, ¬ t.Holds id e.record.slug := fun id holds => held ⟨id, holds⟩
      have looked := storedId_of_not_holds valid named unheld
      exact settled looked (by simp [named]) (.fresh named unheld)

end

/-- Storing entries that succeeds has stored each of them. -/
theorem storeAll_cases {ids : Nat → String} {next : Nat} {entries : List SeedEntry} {t : Tables}
    {db : Store.Database} (valid : t.Valid)
    (stored : storeAll ids next entries ⟨some t⟩ = (.ok (), db)) :
    ∃ t', db = ⟨some t'⟩ ∧ Stores ids next entries t t' := by
  induction entries generalizing next t with
  | nil => exact ⟨t, (Prod.mk.inj stored).2.symm, .done⟩
  | cons e rest ih =>
    rw [storeAll] at stored
    split at stored
    · cases (Prod.mk.inj stored).1
    · next wrote =>
      obtain ⟨id, goes, free, rfl⟩ := storeEntry_cases valid wrote
      obtain ⟨t', rfl, more⟩ := ih (valid.written free) stored
      exact ⟨t', rfl, .store goes free more⟩

/-- The ids that stand ready for entries are new: no dataset and no entry has one, and no two are
the same. -/
structure FreshIds (ids : Nat → String) (next : Nat) (entries : List SeedEntry) (t : Tables) :
    Prop where
  unused : ∀ i < entries.length, Keyed.find? (ids (next + i)) t.datasets = none
  unnamed : ∀ i < entries.length, ∀ e ∈ entries, e.id ≠ some (ids (next + i))
  distinct : ∀ i < entries.length, ∀ j < i, ids (next + i) ≠ ids (next + j)

/-- Entries with different slugs, and with different ids if they bring any. -/
def Apart (d e : SeedEntry) : Prop :=
  d.record.slug ≠ e.record.slug ∧ ∀ id, d.id = some id → e.id ≠ some id

/-- An entry stands in the tables as it is stored, under its own id if it brings one. -/
def Stands (t : Tables) (e : SeedEntry) : Prop :=
  ∃ id, (∀ own, e.id = some own → own = id) ∧
    Keyed.find? id t.datasets = some (.ofRecord (e.toRecord id))

/-- An entry that cannot stay: it brings no id, and the dataset that has its slug has the id that a
later entry brings. -/
def Displaced (t : Tables) (entries : List SeedEntry) (e : SeedEntry) : Prop :=
  e.id = none ∧ ∃ id d, t.Holds id e.record.slug ∧ d.id = some id ∧ [e, d].Sublist entries

section

variable {ids : Nat → String} {next : Nat} {first e : SeedEntry} {rest entries : List SeedEntry}
  {t t' : Tables} {id : String}

theorem FreshIds.head (fresh : FreshIds ids next (first :: rest) t) :
    Keyed.find? (ids next) t.datasets = none ∧
      ∀ e ∈ first :: rest, e.id ≠ some (ids next) :=
  ⟨fresh.unused 0 (by simp), fresh.unnamed 0 (by simp)⟩

/-- An entry that brings an id goes under it. -/
theorem GoesUnder.eq_of_named {own : String} (goes : GoesUnder (ids next) first t id)
    (named : first.id = some own) : own = id := by
  cases goes with
  | own here => exact Option.some.inj (named.symm.trans here)
  | held unnamed _ => cases unnamed.symm.trans named
  | fresh unnamed _ => cases unnamed.symm.trans named

/-- No dataset that is there, and none that an entry names, has the place of an entry that goes
somewhere else. -/
theorem GoesUnder.ne {other : String} (goes : GoesUnder (ids next) first t id)
    (named : first.id ≠ some other) (unheld : ¬ t.Holds other first.record.slug)
    (fresh : ids next ≠ other) : id ≠ other := by
  rintro rfl
  cases goes with
  | own here => exact named here
  | held _ holds => exact unheld holds
  | fresh _ _ => exact fresh rfl

theorem FreshIds.tail (fresh : FreshIds ids next (first :: rest) t)
    (goes : GoesUnder (ids next) first t id) :
    FreshIds ids (next + 1) rest (t.written (first.toRecord id)) := by
  have shift (i : Nat) : next + 1 + i = next + (i + 1) := by omega
  constructor
  · intro i small
    have bound : i + 1 < (first :: rest).length := by simpa using small
    have unused := fresh.unused (i + 1) bound
    have other : id ≠ ids (next + (i + 1)) := by
      apply goes.ne
      · exact fresh.unnamed (i + 1) bound first List.mem_cons_self
      · rintro ⟨row, found, -⟩
        rw [unused] at found
        cases found
      · exact (fresh.distinct (i + 1) bound 0 (by omega)).symm
    rw [shift, Tables.find?_datasets_written]
    exact (if_neg other).trans unused
  · intro i small e mem
    rw [shift]
    exact fresh.unnamed (i + 1) (by simpa using small) e (List.mem_cons_of_mem _ mem)
  · intro i small j less
    rw [shift, shift]
    exact fresh.distinct (i + 1) (by simpa using small) (j + 1) (by omega)

namespace Stores

theorem valid (run : Stores ids next entries t t') (valid : t.Valid) : t'.Valid := by
  induction run with
  | done => exact valid
  | store goes free more ih => exact ih (valid.written free)

/-- A dataset stays as it is if no entry has its slug or brings its id. -/
theorem stays (run : Stores ids next entries t t') (fresh : FreshIds ids next entries t)
    {row : DatasetRow} (found : Keyed.find? id t.datasets = some row)
    (others : ∀ e ∈ entries, e.record.slug ≠ row.slug ∧ e.id ≠ some id) :
    Keyed.find? id t'.datasets = some row := by
  induction run with
  | done => exact found
  | @store next first rest t t' target goes free more ih =>
    obtain ⟨slug, unnamed⟩ := others first List.mem_cons_self
    have other : target ≠ id := by
      apply goes.ne unnamed
      · rintro ⟨row', found', same⟩
        obtain rfl := Option.some.inj (found'.symm.trans found)
        exact slug same.symm
      · rintro rfl
        rw [fresh.head.1] at found
        cases found
    apply ih (fresh.tail goes)
    · rw [Tables.find?_datasets_written]
      exact (if_neg other).trans found
    · exact fun e mem => others e (List.mem_cons_of_mem _ mem)

/-- A slug that no dataset and no entry has is no one's afterwards. -/
theorem unheld (run : Stores ids next entries t t') {slug : String}
    (before : ∀ id, ¬ t.Holds id slug) (absent : ∀ e ∈ entries, e.record.slug ≠ slug) :
    ∀ id, ¬ t'.Holds id slug := by
  induction run with
  | done => exact before
  | store goes free more ih =>
    apply ih
    · intro id holds
      rcases (Tables.holds_written id slug).1 holds with ⟨-, same⟩ | ⟨-, holds⟩
      · exact absent _ List.mem_cons_self same
      · exact before id holds
    · exact fun e mem => absent e (List.mem_cons_of_mem _ mem)

/-- A dataset is displaced by the entry that brings its id: no one has its slug afterwards. -/
theorem displaces (run : Stores ids next entries t t') (valid : t.Valid)
    (fresh : FreshIds ids next entries t) {slug : String} (holds : t.Holds id slug)
    (absent : ∀ e ∈ entries, e.record.slug ≠ slug) (named : ∃ d ∈ entries, d.id = some id) :
    ∀ other, ¬ t'.Holds other slug := by
  induction run with
  | done =>
    obtain ⟨d, mem, -⟩ := named
    cases mem
  | @store next first rest t t' target goes free more ih =>
    have later : ∀ e ∈ rest, e.record.slug ≠ slug :=
      fun e mem => absent e (List.mem_cons_of_mem _ mem)
    by_cases here : target = id
    · -- the entry takes the place, and no other dataset has the slug
      apply more.unheld _ later
      intro other held
      rcases (Tables.holds_written other slug).1 held with ⟨-, same⟩ | ⟨away, held⟩
      · exact absent first List.mem_cons_self same
      · exact away (here.trans (valid.holds_unique holds held))
    · apply ih (valid.written free) (fresh.tail goes) _ later
      · obtain ⟨d, mem, brings⟩ := named
        rcases List.mem_cons.1 mem with rfl | mem
        · exact absurd (goes.eq_of_named brings).symm here
        · exact ⟨d, mem, brings⟩
      · exact (Tables.holds_written id slug).2 (.inr ⟨here, holds⟩)

end Stores

/-- The first entry is displaced if a later one brings the id that it goes under. -/
theorem displaced_head (valid : t.Valid) (goes : GoesUnder (ids next) first t id)
    (fresh : FreshIds ids next (first :: rest) t) (apart : ∀ d ∈ rest, Apart first d) :
    Displaced t (first :: rest) first ↔ ∃ d ∈ rest, d.id = some id := by
  constructor
  · rintro ⟨unnamed, place, d, holds, brings, order⟩
    have later : d ∈ rest := List.singleton_sublist.1 (List.cons_sublist_cons.1 order)
    cases goes with
    | own own => cases unnamed.symm.trans own
    | held _ holds' =>
      obtain rfl := valid.holds_unique holds holds'
      exact ⟨d, later, brings⟩
    | fresh _ unheld => exact absurd holds (unheld place)
  · rintro ⟨d, later, brings⟩
    cases goes with
    | own own => exact absurd brings ((apart d later).2 id own)
    | held unnamed holds =>
      refine ⟨unnamed, id, d, holds, brings, ?_⟩
      rw [List.cons_sublist_cons, List.singleton_sublist]
      exact later
    | fresh _ _ => exact absurd brings (fresh.head.2 d (List.mem_cons_of_mem _ later))

/-- A later entry is displaced by the tables that the first one leaves if it is by those before. -/
theorem displaced_cons (goes : GoesUnder (ids next) first t id)
    (fresh : FreshIds ids next (first :: rest) t) (apart : ∀ d ∈ rest, Apart first d)
    (mem : e ∈ rest) :
    Displaced t (first :: rest) e ↔ Displaced (t.written (first.toRecord id)) rest e := by
  unfold Displaced
  constructor
  · rintro ⟨unnamed, place, d, holds, brings, order⟩
    have order : [e, d].Sublist rest := by
      rcases List.sublist_cons_iff.1 order with order | ⟨_, same, _⟩
      · exact order
      · obtain ⟨rfl, -⟩ := List.cons.inj same
        exact absurd rfl (apart e mem).1
    have later : d ∈ rest := order.subset (by simp)
    have away : id ≠ place := by
      apply goes.ne
      · exact fun named => (apart d later).2 place named brings
      · rintro ⟨row, found, same⟩
        obtain ⟨row', found', same'⟩ := holds
        obtain rfl := Option.some.inj (found'.symm.trans found)
        exact (apart e mem).1 (same.symm.trans same')
      · rintro rfl
        exact fresh.head.2 d (List.mem_cons_of_mem _ later) brings
    exact ⟨unnamed, place, d, (Tables.holds_written place _).2 (.inr ⟨away, holds⟩), brings, order⟩
  · rintro ⟨unnamed, place, d, holds, brings, order⟩
    rcases (Tables.holds_written place _).1 holds with ⟨-, same⟩ | ⟨-, holds⟩
    · exact absurd same (apart e mem).1
    · exact ⟨unnamed, place, d, holds, brings, order.cons first⟩

namespace Stores

/-- An entry stands in the tables afterwards, or it has been displaced and no one has its slug. -/
theorem fate (run : Stores ids next entries t t') (valid : t.Valid)
    (fresh : FreshIds ids next entries t) (apart : entries.Pairwise Apart) :
    ∀ e ∈ entries,
      (¬ Displaced t entries e ∧ Stands t' e) ∨
      (Displaced t entries e ∧ ∀ id, ¬ t'.Holds id e.record.slug) := by
  induction run with
  | done => simp
  | @store next first rest t t' id goes free more ih =>
    obtain ⟨different, apart⟩ := List.pairwise_cons.1 apart
    intro e mem
    rcases List.mem_cons.1 mem with rfl | mem
    · have wrote : Keyed.find? id (t.written (e.toRecord id)).datasets =
          some (.ofRecord (e.toRecord id)) := by
        rw [Tables.find?_datasets_written]
        exact if_pos rfl
      have slugs : ∀ d ∈ rest, d.record.slug ≠ e.record.slug :=
        fun d mem => (different d mem).1.symm
      have displaced := displaced_head valid goes fresh different
      by_cases named : ∃ d ∈ rest, d.id = some id
      · exact .inr ⟨displaced.2 named, more.displaces (valid.written free) (fresh.tail goes)
          ⟨_, wrote, rfl⟩ slugs named⟩
      · refine .inl ⟨fun gone => named (displaced.1 gone), id, fun own => goes.eq_of_named, ?_⟩
        apply more.stays (fresh.tail goes) wrote
        exact fun d mem => ⟨slugs d mem, fun brings => named ⟨d, mem, brings⟩⟩
    · have later := ih (valid.written free) (fresh.tail goes) apart e mem
      rw [← displaced_cons goes fresh different mem] at later
      exact later

/-- An organization stays as it is if every entry that names it brings it as it is. -/
theorem keeps_organization (run : Stores ids next entries t t') {org : Organization}
    (there : Keyed.find? org.id t.organizations = some org)
    (agree : ∀ e ∈ entries, e.record.organization.id = org.id → e.record.organization = org) :
    Keyed.find? org.id t'.organizations = some org := by
  induction run with
  | done => exact there
  | @store next first rest t t' id goes free more ih =>
    apply ih
    · rw [Tables.find?_organizations_written]
      by_cases same : first.record.organization.id = org.id
      · exact (if_pos same).trans (congrArg some (agree first List.mem_cons_self same))
      · exact (if_neg same).trans there
    · exact fun e mem => agree e (List.mem_cons_of_mem _ mem)

/-- The organization of every entry stands in the tables afterwards. -/
theorem organizations (run : Stores ids next entries t t')
    (agree : ∀ d ∈ entries, ∀ e ∈ entries, d.record.organization.id = e.record.organization.id →
      d.record.organization = e.record.organization) :
    ∀ e ∈ entries,
      Keyed.find? e.record.organization.id t'.organizations = some e.record.organization := by
  induction run with
  | done => simp
  | @store next first rest t t' id goes free more ih =>
    intro e mem
    rcases List.mem_cons.1 mem with rfl | mem
    · apply more.keeps_organization
      · rw [Tables.find?_organizations_written]
        exact if_pos rfl
      · exact fun d later => agree d (List.mem_cons_of_mem _ later) e List.mem_cons_self
    · apply ih _ e mem
      exact fun d memD e memE =>
        agree d (List.mem_cons_of_mem _ memD) e (List.mem_cons_of_mem _ memE)

/-- A harvest source has the name that the last entry with it brings. -/
theorem sources (run : Stores ids next entries t t') (id : String) :
    Keyed.find? id t'.harvestSources =
      (History.sourceName id (entries.map SeedEntry.record).reverse).or
        (Keyed.find? id t.harvestSources) := by
  induction run with
  | done => rfl
  | @store next first rest t t' place goes free more ih =>
    have same : History.sourceName id [first.toRecord place] =
        History.sourceName id [first.record] := rfl
    rw [ih, Tables.find?_sources_written, List.map_cons, List.reverse_cons,
      History.sourceName_append, Option.or_assoc, same]

end Stores

end

end CatalogSearch.Seed
