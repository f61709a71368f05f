import CatalogSearch.Proofs.Seed.Lines
import CatalogSearch.Proofs.Seed.Storing

/-!
# Seeding again

What a seed leaves in the tables it finds there when it is stored again: lines that stand are
written once more as they are, and lines that were displaced find their slug free and get a row of
their own, which stays from then on.
-/
namespace CatalogSearch.Seed

open Store (DatasetRow Tables)

/-- The slug of an entry leads to what the entry brought. -/
def Resolves (t : Tables) (e : SeedEntry) : Prop :=
  ∃ r, t.answer (.findBySlug e.record.slug) = .ok (some r) ∧ r.slug = e.record.slug ∧
    r.dcat = e.record.dcat ∧ r.organization = e.record.organization ∧
    r.popularity = e.record.popularity ∧ r.lastHarvested = e.record.lastHarvested

section

variable {fresh : String} {e d : SeedEntry} {t : Tables} {id : String}

theorem Stands.holds (stands : Stands t e) : ∃ id, t.Holds id e.record.slug := by
  obtain ⟨id, -, found⟩ := stands
  exact ⟨id, _, found, rfl⟩

theorem Stands.resolves (stands : Stands t e) (valid : t.Valid)
    (there : Keyed.find? e.record.organization.id t.organizations = some e.record.organization)
    (readable : Json.parse e.record.dcat.print = .ok e.record.dcat) : Resolves t e := by
  obtain ⟨id, -, found⟩ := stands
  have answer : t.answer (.findBySlug e.record.slug) = _ := valid.findBySlug_of_row found there
  obtain ⟨source, reads⟩ :=
    Tables.recordOf_ofRecord (r := e.toRecord id) (t := t) readable id e.record.organization
  rw [reads] at answer
  exact ⟨_, answer, rfl, rfl, rfl, rfl, rfl⟩

/-- Storing an entry again that stands in the tables, or whose slug is free, succeeds: it goes
where it stands, or to a new place. -/
theorem storeEntry_again (valid : t.Valid)
    (there : Keyed.find? e.record.organization.id t.organizations = some e.record.organization)
    (readable : Json.parse e.record.dcat.print = .ok e.record.dcat)
    (unused : Keyed.find? fresh t.datasets = none)
    (before : Stands t e ∨ e.id = none ∧ ∀ id, ¬ t.Holds id e.record.slug) :
    ∃ id, GoesUnder fresh e t id ∧ ¬ t.Blocks (e.toRecord id) ∧
      storeEntry fresh e ⟨some t⟩ = .ok ⟨some (t.written (e.toRecord id))⟩ ∧
      (Stands t e ∧ Keyed.find? id t.datasets = some (.ofRecord (e.toRecord id)) ∨
        ¬ Stands t e ∧ Keyed.find? id t.datasets = none) := by
  have settled : ∀ {found : Option String} {id : String}, storedId e ⟨some t⟩ = .ok found →
      (e.id <|> found).getD fresh = id → (∀ other, t.Holds other e.record.slug → other = id) →
      ¬ t.Blocks (e.toRecord id) ∧
        storeEntry fresh e ⟨some t⟩ = .ok ⟨some (t.written (e.toRecord id))⟩ := by
    intro found id looked place own
    have free : ¬ t.Blocks (e.toRecord id) := valid.not_blocks there own
    rcases storeEntry_of_storedId looked place with ⟨blocks, -⟩ | wrote
    · exact absurd blocks free
    · exact wrote
  rcases before with stands | ⟨unnamed, unheld⟩
  · have ⟨id, own, found⟩ := stands
    have holds : t.Holds id e.record.slug := ⟨_, found, rfl⟩
    have only : ∀ other, t.Holds other e.record.slug → other = id :=
      fun other held => valid.holds_unique held holds
    refine ⟨id, ?_⟩
    cases named : e.id with
    | some mine =>
      obtain rfl := own mine named
      have looked : storedId e ⟨some t⟩ = .ok none := by rw [storedId, named]
      obtain ⟨free, wrote⟩ := settled looked (by simp [named]) only
      exact ⟨.own named, free, wrote, .inl ⟨stands, found⟩⟩
    | none =>
      obtain ⟨org, looked⟩ := storedId_of_row valid named found rfl
      obtain ⟨source, reads⟩ :=
        Tables.recordOf_ofRecord (r := e.toRecord id) (t := t) readable id org
      rw [reads] at looked
      obtain ⟨free, wrote⟩ := settled looked (by simp [named]) only
      exact ⟨.held named holds, free, wrote, .inl ⟨stands, found⟩⟩
  · have looked := storedId_of_not_holds valid unnamed unheld
    have new : (e.id <|> none).getD fresh = fresh := by simp [unnamed]
    obtain ⟨free, wrote⟩ := settled looked new fun other held => absurd held (unheld other)
    refine ⟨fresh, .fresh unnamed unheld, free, wrote, .inr ⟨?_, unused⟩⟩
    intro stands
    obtain ⟨id, holds⟩ := stands.holds
    exact unheld id holds

/-- What stands in the tables stays there when another entry is written where it stands or to a new
place. -/
theorem Stands.written (stands : Stands t d) (apart : Apart e d)
    (place : Keyed.find? id t.datasets = some (.ofRecord (e.toRecord id)) ∨
      Keyed.find? id t.datasets = none) :
    Stands (t.written (e.toRecord id)) d := by
  obtain ⟨other, own, found⟩ := stands
  refine ⟨other, own, ?_⟩
  have away : id ≠ other := by
    rintro rfl
    rcases place with here | none
    · have same := congrArg DatasetRow.slug (Option.some.inj (found.symm.trans here))
      exact apart.1 same.symm
    · cases none.symm.trans found
  rw [Tables.find?_datasets_written]
  exact (if_neg away).trans found

end

/-- Entries that stand in the tables, or whose slugs are free, can be stored again. If all of them
stand, the datasets are what they were. -/
theorem storeAll_again {ids : Nat → String} {next : Nat} {entries : List SeedEntry} {t : Tables}
    (valid : t.Valid) (fresh : FreshIds ids next entries t) (apart : entries.Pairwise Apart)
    (there : ∀ e ∈ entries,
      Keyed.find? e.record.organization.id t.organizations = some e.record.organization)
    (readable : ∀ e ∈ entries, Json.parse e.record.dcat.print = .ok e.record.dcat)
    (before : ∀ e ∈ entries,
      Stands t e ∨ e.id = none ∧ ∀ id, ¬ t.Holds id e.record.slug) :
    ∃ t', storeAll ids next entries ⟨some t⟩ = (.ok (), ⟨some t'⟩) ∧
      Stores ids next entries t t' ∧ t'.organizations = t.organizations ∧
      ((∀ e ∈ entries, Stands t e) → t'.datasets = t.datasets) := by
  induction entries generalizing next t with
  | nil => exact ⟨t, rfl, .done, rfl, fun _ => rfl⟩
  | cons e rest ih =>
    obtain ⟨different, apart⟩ := List.pairwise_cons.1 apart
    obtain ⟨id, goes, free, wrote, place⟩ := storeEntry_again valid (there e List.mem_cons_self)
      (readable e List.mem_cons_self) fresh.head.1 (before e List.mem_cons_self)
    have organizations : (t.written (e.toRecord id)).organizations = t.organizations :=
      Keyed.insert_of_find? valid.organizationsAscend (there e List.mem_cons_self)
    have standing : ∀ d ∈ rest, Stands t d → Stands (t.written (e.toRecord id)) d :=
      fun d mem stands =>
        stands.written (different d mem) (place.imp And.right And.right)
    have later : ∀ d ∈ rest, Stands (t.written (e.toRecord id)) d ∨
        d.id = none ∧ ∀ other, ¬ (t.written (e.toRecord id)).Holds other d.record.slug := by
      intro d mem
      rcases before d (List.mem_cons_of_mem _ mem) with stands | ⟨unnamed, unheld⟩
      · exact .inl (standing d mem stands)
      · refine .inr ⟨unnamed, fun other holds => ?_⟩
        rcases (Tables.holds_written other _).1 holds with ⟨-, same⟩ | ⟨-, holds⟩
        · exact (different d mem).1 same
        · exact unheld other holds
    obtain ⟨t', stored, run, kept, unchanged⟩ := ih (valid.written free) (fresh.tail goes) apart
      (fun d mem => by rw [organizations]; exact there d (List.mem_cons_of_mem _ mem))
      (fun d mem => readable d (List.mem_cons_of_mem _ mem)) later
    refine ⟨t', ?_, .store goes free run, kept.trans organizations, fun all => ?_⟩
    · rw [storeAll, wrote]
      exact stored
    · rw [unchanged fun d mem => standing d mem (all d (List.mem_cons_of_mem _ mem))]
      rcases place with ⟨-, here⟩ | ⟨not, -⟩
      · exact Keyed.insert_of_find? valid.datasetsAscend here
      · exact absurd (all e List.mem_cons_self) not

/-- Lines that seed one dataset each: no slug and no id stands on two lines, lines with one
organization agree on it, numbers in the metadata are whole, and the metadata is not nested too
deep to be read again. -/
structure Proper (entries : List SeedEntry) : Prop where
  apart : entries.Pairwise Apart
  organizations : ∀ d ∈ entries, ∀ e ∈ entries,
    d.record.organization.id = e.record.organization.id →
    d.record.organization = e.record.organization
  whole : ∀ e ∈ entries, Json.Whole Json.depthLimit e.record.dcat
  plain : ∀ e ∈ entries, e.record.dcat.Unembedded

section

variable {ids ids' : Nat → String} {next again : Nat} {entries : List SeedEntry}
  {t t' t'' : Tables} {e : SeedEntry}

/-- The slugs of entries that stand in the tables lead to what they brought. -/
theorem resolves_of_stands {content : String} (parsed : parse content = .ok entries)
    (run : Stores ids next entries t t') (valid : t.Valid) (proper : Proper entries)
    (mem : e ∈ entries) (stands : Stands t' e) : Resolves t' e :=
  stands.resolves (run.valid valid) (run.organizations proper.organizations e mem)
    (readable_of_parse parsed proper.whole proper.plain e mem)

/-- Nothing is displaced when entries are stored in what they left. -/
theorem not_displaced_again (run : Stores ids next entries t t') (valid : t.Valid)
    (proper : Proper entries) (fresh : FreshIds ids next entries t) : ¬ Displaced t' entries e := by
  rintro ⟨unnamed, id, d, ⟨row, found, same⟩, brings, order⟩
  have stands : Stands t' d := by
    rcases run.fate valid fresh proper.apart d (order.subset (by simp)) with
      ⟨-, stands⟩ | ⟨⟨none, -⟩, -⟩
    · exact stands
    · cases none.symm.trans brings
  obtain ⟨place, own, found'⟩ := stands
  obtain rfl := own id brings
  obtain rfl := Option.some.inj (found.symm.trans found')
  have apart : [e, d].Pairwise Apart := proper.apart.sublist order
  exact (List.pairwise_pair.1 apart).1 same.symm

/-- A second run that leaves organizations and datasets as they are leaves all as it is: the last
names of the harvest sources were written already. -/
theorem eq_of_datasets_eq (run : Stores ids next entries t t')
    (rerun : Stores ids' again entries t' t'') (valid : t.Valid)
    (organizations : t''.organizations = t'.organizations)
    (datasets : t''.datasets = t'.datasets) : t'' = t' := by
  have valid' := run.valid valid
  have sources : t''.harvestSources = t'.harvestSources := by
    apply Keyed.eq_of_find?_eq (rerun.valid valid').sourcesAscend valid'.sourcesAscend
    intro id
    rw [rerun.sources, run.sources, ← Option.or_assoc, Option.or_self]
  cases t''
  cases t'
  simp_all

/-- What a run leaves, and what the same lines do to it once more. -/
theorem stored_again {content : String} {db : Store.Database}
    (parsed : parse content = .ok entries) (valid : t.Valid) (proper : Proper entries)
    (fresh : FreshIds ids next entries t)
    (stored : storeAll ids next entries ⟨some t⟩ = (.ok (), db)) :
    ∃ t', db = ⟨some t'⟩ ∧
      (∀ e ∈ entries, ¬ Displaced t entries e → Resolves t' e) ∧
      (∀ e ∈ entries, Displaced t entries e →
        t'.answer (.findBySlug e.record.slug) = .ok none) ∧
      ∀ ids' again, FreshIds ids' again entries t' →
        ∃ t'', storeAll ids' again entries ⟨some t'⟩ = (.ok (), ⟨some t''⟩) ∧
          (∀ e ∈ entries, Resolves t'' e) ∧
          (t'' = t' ↔ ∀ e ∈ entries, ¬ Displaced t entries e) := by
  obtain ⟨t', rfl, run⟩ := storeAll_cases valid stored
  have fate := run.fate valid fresh proper.apart
  have valid' := run.valid valid
  have remains : ∀ e ∈ entries, ¬ Displaced t entries e → Stands t' e := by
    intro e mem stays
    rcases fate e mem with ⟨-, stands⟩ | ⟨displaced, -⟩
    · exact stands
    · exact absurd displaced stays
  have gone : ∀ e ∈ entries, Displaced t entries e → ∀ id, ¬ t'.Holds id e.record.slug := by
    intro e mem displaced
    rcases fate e mem with ⟨stays, -⟩ | ⟨-, unheld⟩
    · exact absurd displaced stays
    · exact unheld
  refine ⟨t', rfl, ?_, ?_, ?_⟩
  · intro e mem stays
    exact resolves_of_stands parsed run valid proper mem (remains e mem stays)
  · intro e mem displaced
    exact valid'.findBySlug_of_not_holds (gone e mem displaced)
  · intro ids' again fresh'
    have before : ∀ e ∈ entries,
        Stands t' e ∨ e.id = none ∧ ∀ id, ¬ t'.Holds id e.record.slug := by
      intro e mem
      rcases fate e mem with ⟨-, stands⟩ | ⟨displaced, unheld⟩
      · exact .inl stands
      · exact .inr ⟨displaced.1, unheld⟩
    obtain ⟨t'', wrote, rerun, organizations, unchanged⟩ := storeAll_again valid' fresh'
      proper.apart (run.organizations proper.organizations)
      (readable_of_parse parsed proper.whole proper.plain) before
    have all : ∀ e ∈ entries, Stands t'' e := by
      intro e mem
      rcases rerun.fate valid' fresh' proper.apart e mem with ⟨-, stands⟩ | ⟨displaced, -⟩
      · exact stands
      · exact absurd displaced (not_displaced_again run valid proper fresh)
    refine ⟨t'', wrote, ?_, ?_, ?_⟩
    · intro e mem
      exact resolves_of_stands parsed rerun valid' proper mem (all e mem)
    · rintro rfl e mem displaced
      obtain ⟨id, holds⟩ := (all e mem).holds
      exact gone e mem displaced id holds
    · intro none
      have datasets := unchanged fun e mem => remains e mem (none e mem)
      exact eq_of_datasets_eq run rerun valid organizations datasets

end

end CatalogSearch.Seed
