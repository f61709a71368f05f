import CatalogSearch.Proofs.Repair.Restart

/-!
# Repairs of a drift that was computed earlier

Between a comparison and the repair of its drift, the store and the index may change. A repair
looks up again what it writes, and a record that vanished is skipped. What it deletes it does not
look up again: an extra document goes also if its record has come back in the meantime.
-/
namespace CatalogSearch.Repair

open Drift (ofSides)
open Index (Client Memory)
open Rehearsal (Fate Journal Stage calm struck unreliable)

variable {store : Store.Memory} {m m' : Memory}

/-- However its calls fail, a comparison that succeeds finds the drift of the two sides. -/
theorem computeDrift_finds (client : Client) (store : Store.Memory) (m : Memory) :
    (computeDrift client).Ends (unreliable store) m (fun drift _ => drift = ofSides store m)
      fun _ _ => True := by
  have quiet : Quiet store True (unreliable store) (· = m) := quiet_unreliable _
  have listing : store.answer .listing = .ok (store.all.map fun r => (r.id, r.lastHarvested)) := rfl
  unfold computeDrift
  refine (quiet.store_ends listing rfl).withContext.bind ?_ fun _ _ _ => trivial
  rintro storeListing m₁ ⟨rfl, rfl⟩
  have scan (m' : Memory) (h : m' = m₁) :
      (Task.index .scanFreshness).Ends (unreliable store) m'
        (fun listing _ =>
          listing = (Keyed.values m₁.documents).map fun d => (d.id, d.lastHarvested))
        fun _ m'' => True ∧ m'' = m₁ := by
    subst h
    have unchanged : (m'.answer .scanFreshness).2 = m' := by
      simp only [Memory.answer, Memory.ifExists]
      split <;> rfl
    rintro answer m'' (⟨rfl, rfl⟩ | ⟨⟨f, rfl⟩, hm''⟩)
    · simp only [Memory.answer, Memory.ifExists]
      split
      · rfl
      · exact ⟨trivial, rfl⟩
    · rw [unchanged, or_self] at hm''
      exact ⟨trivial, hm''⟩
  refine (quiet.withTimeoutRetry_ends client "scan_freshness" scan rfl).withContext.bind ?_
    fun _ _ _ => trivial
  rintro indexListing m₂ rfl
  exact Task.ends_bind.2 (Task.ends_always.2 fun _ _ _ => rfl)

/-- A repair of any drift leaves a document that has a record unless the drift calls it extra. -/
theorem Mended.contains_iff {drift : Drift} {middle : Memory} {summary : RepairSummary}
    (h : Mended store drift m middle m' summary) {id : String}
    (indexed : Keyed.contains id m.documents = true) :
    Keyed.contains id m'.documents = true ↔ id ∉ drift.extra := by
  have written : Keyed.contains id middle.documents = true := by
    by_cases hid : id ∈ ((found store drift.idsToIndex).map Document.ofRecord).map (·.id) ∧
        id ∉ summary.failures.map (·.documentId)
    · obtain ⟨⟨d, hd, rfl⟩, haccepted⟩ := hid.imp_left List.mem_map.1
      rw [Keyed.contains, h.wrote.taken d hd haccepted]
      rfl
    · rw [Keyed.contains, h.wrote.kept id fun hin => ?_]
      · exact indexed
      · exact Decidable.byContradiction fun haccepted => hid ⟨hin, haccepted⟩
  constructor
  · intro hleft hextra
    rw [Keyed.contains, h.gone id hextra] at hleft
    cases hleft
  · intro hextra
    rw [Keyed.contains, h.kept id hextra]
    exact written

/-- A repair of any drift whose ids are different succeeds if there is a document, and the document
is left unless the drift calls it extra. -/
theorem exists_run_repair (client : Client) (batchSize sampleSize : Nat) {store : Store.Memory}
    {index : Memory} {drift : Drift} (journal : Journal) (hstore : store.Sound)
    (sound : index.Sound) (hids : drift.idsToIndex.Nodup) (hextra : drift.extra.Nodup) {id : String}
    (indexed : Keyed.contains id index.documents = true) :
    ∃ summary index' journal',
      (calm store index journal).run (repair client batchSize drift sampleSize) =
        (.ok summary, calm store index' journal') ∧
      (Keyed.contains id index'.documents = true ↔ id ∉ drift.extra) := by
  obtain ⟨d, found⟩ := Option.isSome_iff_exists.1 indexed
  have hmapping : index.mapping.isSome = true := sound.isSome_of_mem (Keyed.mem_of_find? found)
  obtain ⟨summary, index', journal', hrun, middle, mended⟩ := Rehearsal.run_calm
    (repair_ends (w := ⟨index, journal.events⟩) client batchSize sampleSize hstore hids hextra
      sound hmapping)
  exact ⟨summary, index', journal', hrun, mended.contains_iff indexed⟩

/-- A drift that an earlier comparison found, whatever calls failed meanwhile, is repaired against a
store and an index that are different by now. A document is left unless the drift calls it extra,
whether it has a record or not, and the drift does that if the index had a document then and the
store no record. -/
theorem repair_of_earlier_drift (client₀ client : Client) (batchSize sampleSize : Nat)
    (fates : Nat → Fate) {store₀ store : Store.Memory} {index₀ index : Memory}
    (journal₀ journal : Journal) {drift : Drift} (hstore₀ : store₀.Sound) (sound₀ : index₀.Sound)
    (hstore : store.Sound) (sound : index.Sound)
    (computed : ((computeDrift client₀).attempt.run (struck fates Stage.handler)
      (0, calm store₀ index₀ journal₀)).1 = .ok drift)
    {id : String} (indexed : Keyed.contains id index.documents = true) :
    ∃ summary index' journal',
      (calm store index journal).run (repair client batchSize drift sampleSize) =
        (.ok summary, calm store index' journal') ∧
      (Keyed.contains id index'.documents = true ↔ id ∉ drift.extra) ∧
      (id ∈ drift.extra ↔ Keyed.contains id index₀.documents = true ∧
        Keyed.contains id store₀.records = false) := by
  obtain ⟨m, -, found⟩ := Job.Ends.run (s := (0, calm store₀ index₀ journal₀))
    (Rehearsal.struck_follows store₀ fates) ⟨journal₀, rfl⟩
    (computeDrift_finds client₀ store₀ index₀)
  rw [computed] at found
  obtain rfl : drift = ofSides store₀ index₀ := found
  have hids := Drift.nodup_idsToIndex hstore₀ sound₀
  have hextra := Drift.nodup_extra hstore₀ sound₀
  obtain ⟨summary, index', journal', hrun, hleft⟩ := exists_run_repair client batchSize sampleSize
    journal hstore sound hids hextra indexed
  exact ⟨summary, index', journal', hrun, hleft, Drift.mem_extra hstore₀ sound₀⟩

/-- An index with one document. -/
def indexOf (id : String) : Memory :=
  ({} : Memory).put { (default : Document) with id }

theorem sound_indexOf (id : String) : (indexOf id).Sound := Memory.sound_initial.put _

def firstScanLost (n : Nat) : Fate :=
  if n = 1 then .lost (.timeout "no answer") else .answered

/-- A comparison finds a missing record, which another run indexes; the repair leaves it. -/
theorem repair_of_earlier_drift_indexed :
    ∃ summary index' journal',
      (calm (.ofIds ["a"]) (indexOf "a") {}).run (repair {} 1000 ⟨["a"], ["x"], []⟩ 5) =
        (.ok summary, calm (.ofIds ["a"]) index' journal') ∧
      Keyed.contains "a" index'.documents = true := by
  have computed : ((computeDrift {}).attempt.run (struck firstScanLost Stage.handler)
      (0, calm (.ofIds ["a"]) (indexOf "x") {})).1 = .ok ⟨["a"], ["x"], []⟩ := by decide +kernel
  have indexed : Keyed.contains "a" (indexOf "a").documents = true := by decide +kernel
  obtain ⟨summary, index', journal', hrun, hleft, -⟩ := repair_of_earlier_drift {} {} 1000 5
    firstScanLost {} {} (Store.Memory.sound_ofIds ["a"]) (sound_indexOf "x")
    (Store.Memory.sound_ofIds ["a"]) (sound_indexOf "a") computed indexed
  exact ⟨summary, index', journal', hrun, hleft.2 (by decide)⟩

/-- A document is extra, then its record comes back, and the repair of the earlier drift removes the
document all the same. -/
theorem repair_removes_returned_record :
    ((calm {} (indexOf "x") {}).run (computeDrift {})).1 = .ok ⟨[], ["x"], []⟩ ∧
    Keyed.contains "x" (indexOf "x").documents = true ∧
    Keyed.contains "x" (Store.Memory.ofIds ["x"]).records = true ∧
    ∃ summary index' journal',
      (calm (.ofIds ["x"]) (indexOf "x") {}).run (repair {} 1000 ⟨[], ["x"], []⟩ 5) =
        (.ok summary, calm (.ofIds ["x"]) index' journal') ∧
      Keyed.contains "x" index'.documents = false := by
  have indexed : Keyed.contains "x" (indexOf "x").documents = true := by decide +kernel
  have hids : (Drift.idsToIndex ⟨[], ["x"], []⟩).Nodup := by decide +kernel
  have hextra : (⟨[], ["x"], []⟩ : Drift).extra.Nodup := by decide
  obtain ⟨summary, index', journal', hrun, hleft⟩ := exists_run_repair {} 1000 5 {}
    (Store.Memory.sound_ofIds ["x"]) (sound_indexOf "x") hids hextra indexed
  exact ⟨by decide +kernel, indexed, by decide +kernel, summary, index', journal', hrun,
    Bool.not_eq_true _ ▸ fun h => hleft.1 h (List.mem_singleton_self "x")⟩

end CatalogSearch.Repair
