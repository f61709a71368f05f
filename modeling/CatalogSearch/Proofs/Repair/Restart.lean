import CatalogSearch.Proofs.Rehearsal.Struck
import CatalogSearch.Proofs.Repair.Keeping
import CatalogSearch.Proofs.Repair.Residue

/-!
# Restarting a repair

What a repair makes of an index can be read off before it starts: under each key the document that
is as fresh as the record, or else the document of the record. No single request of a repair
changes this, so that a repair that was broken off anywhere can be started again and comes to the
same index.
-/
namespace CatalogSearch

open Index (Client Memory)

namespace Drift

variable {store : Store.Memory} {m m' : Memory} {key : String}

/-- Is there a document under a key that is as fresh as a record? -/
def current (m : Memory) (key : String) (r : Record) : Bool :=
  (Keyed.find? key m.documents).any fun d =>
    decide (Time.normalize d.lastHarvested = Time.normalize r.lastHarvested)

/-- What a repair brings under a key. -/
def target (store : Store.Memory) (m : Memory) (key : String) : Option Document :=
  (Keyed.find? key store.records).bind fun r =>
    if current m key r then Keyed.find? key m.documents else some (Document.ofRecord r)

theorem target_of_none (h : Keyed.find? key store.records = none) : target store m key = none := by
  rw [target, h]
  rfl

theorem target_of_record {r : Record} (h : Keyed.find? key store.records = some r) :
    target store m key =
      if current m key r then Keyed.find? key m.documents else some (Document.ofRecord r) := by
  rw [target, h]
  rfl

/-- What a repair brings under a key depends on what is there, and on nothing else in the index. -/
theorem target_congr (h : Keyed.find? key m'.documents = Keyed.find? key m.documents) :
    target store m' key = target store m key := by
  unfold target current
  rw [h]

/-- The document of a record stays where it is. -/
theorem target_of_written {r : Record} (hr : Keyed.find? key store.records = some r)
    (h : Keyed.find? key m.documents = some (Document.ofRecord r)) :
    target store m key = some (Document.ofRecord r) := by
  rw [target_of_record hr, h, ite_self]

/-- A record is among the updated ones if its document is stale. -/
theorem mem_keys_updated (hstore : store.Sound) (sound : m.Sound) {r : Record}
    (hr : Keyed.find? key store.records = some r) :
    key ∈ Keyed.keys (ofSides store m).updated ↔ (stale? m (key, r)).isSome = true := by
  rw [updated_ofSides hstore sound]
  constructor
  · intro hin
    obtain ⟨u, hu, rfl⟩ := List.mem_map.1 hin
    obtain ⟨e, he, hstale⟩ := List.mem_filterMap.1 hu
    have hfound := Keyed.find?_of_mem hstore.ascending he
    rw [← (stale?_eq_some hstale).1, hr] at hfound
    obtain rfl : e = (u.1, r) :=
      Prod.ext (stale?_eq_some hstale).1.symm (Option.some.inj hfound).symm
    rw [hstale]
    rfl
  · intro hsome
    obtain ⟨u, hstale⟩ := Option.isSome_iff_exists.1 hsome
    exact List.mem_map.2 ⟨u, List.mem_filterMap.2 ⟨(key, r), Keyed.mem_of_find? hr, hstale⟩,
      (stale?_eq_some hstale).1⟩

/-- Ids that are to be written are those whose record has no document as fresh. -/
theorem mem_idsToIndex_ofSides (hstore : store.Sound) (sound : m.Sound) {r : Record}
    (hr : Keyed.find? key store.records = some r) :
    key ∈ (ofSides store m).idsToIndex ↔ current m key r = false := by
  rw [mem_idsToIndex, mem_missing hstore sound, mem_keys_updated hstore sound hr]
  simp only [Keyed.contains, hr, Option.isSome_some, true_and, stale?, current]
  cases Keyed.find? key m.documents with
  | none => simp
  | some d =>
    by_cases hfresh : Time.normalize d.lastHarvested = Time.normalize r.lastHarvested
    · simp [hfresh]
    · simp [hfresh]

/-- A repair in which nothing fails brings what was to be expected. -/
theorem Repaired.find?_eq (h : Repaired store m m' []) (hstore : store.Sound) (sound : m.Sound)
    (key : String) : Keyed.find? key m'.documents = target store m key := by
  cases hr : Keyed.find? key store.records with
  | none =>
    have hstored : Keyed.contains key store.records = false := by rw [Keyed.contains, hr]; rfl
    rw [target_of_none hr]
    cases hcontains : Keyed.contains key m.documents with
    | true => exact h.deleted key ((mem_extra hstore sound).2 ⟨hcontains, hstored⟩)
    | false =>
      rw [h.kept key (fun hextra => ?_) fun hin => ?_]
      · simpa [Keyed.contains] using hcontains
      · rw [((mem_extra hstore sound).1 hextra).1] at hcontains
        cases hcontains
      · rw [contains_of_mem_idsToIndex hstore sound hin] at hstored
        cases hstored
  | some r =>
    have hcontains : Keyed.contains key store.records = true := by rw [Keyed.contains, hr]; rfl
    have hextra := not_mem_extra_of_contains hstore sound hcontains
    rw [target_of_record hr]
    by_cases hcurrent : current m key r = true
    · rw [if_pos hcurrent]
      refine h.kept key hextra fun hin => ?_
      rw [(mem_idsToIndex_ofSides hstore sound hr).1 hin] at hcurrent
      cases hcurrent
    · rw [if_neg hcurrent]
      have hin := (mem_idsToIndex_ofSides hstore sound hr).2 (Bool.not_eq_true _ ▸ hcurrent)
      obtain ⟨r', hr', hfound⟩ := h.written key hin List.not_mem_nil
      rw [hr] at hr'
      obtain rfl := Option.some.inj hr'
      exact hfound

end Drift

namespace Repair

open Drift (ofSides target)
open Rehearsal (Fate Journal Stage calm struck unreliable)

variable {store : Store.Memory} {m₀ m : Memory}

/-- An index of which a repair makes the same as of another. -/
structure Bound (store : Store.Memory) (m₀ m : Memory) : Prop where
  ready : m.Ready
  target : ∀ key, target store m key = target store m₀ key

/-- A drift that asks for nothing that a repair would not bring. -/
structure Usable (store : Store.Memory) (m₀ : Memory) (drift : Drift) : Prop where
  written : ∀ key ∈ drift.idsToIndex, ∀ r, Keyed.find? key store.records = some r →
    target store m₀ key = some (Document.ofRecord r)
  extra : ∀ key ∈ drift.extra, Keyed.find? key store.records = none

theorem quiet_unreliable (inv : Memory → Prop) : Quiet store True (unreliable store) inv where
  log _ _ _ _ step h := step ▸ h
  pause _ _ _ _ step h := step ▸ h
  report _ _ _ _ step h := step ▸ h
  store _ _ _ _ step h := ⟨step.1 ▸ h, step.2.imp_right fun hf => ⟨trivial, hf⟩⟩

/-- Where an index can answer a request without losing something, an unreliable one keeps it
too. -/
theorem ends_unreliable {inv : Memory → Prop} {call : Index.Call} {value : call.Answer}
    (hanswer : (m.answer call).1 = .ok value) (hbefore : inv m) (hafter : inv (m.answer call).2) :
    (Task.index call).Ends (unreliable store) m (fun a m' => a = value ∧ inv m')
      fun _ m' => True ∧ inv m' := by
  rintro answer m' (⟨rfl, rfl⟩ | ⟨⟨f, rfl⟩, rfl | rfl⟩)
  · rw [hanswer]
    exact ⟨rfl, hafter⟩
  · exact ⟨trivial, hbefore⟩
  · exact ⟨trivial, hafter⟩

/-- Documents of records that a usable drift names do not change what a repair makes of the
index. -/
theorem Bound.holding (h : Bound store m₀ m) {drift : Drift} (usable : Usable store m₀ drift)
    {documents : List Document}
    (hdocuments : ∀ d ∈ documents, d.id ∈ drift.idsToIndex ∧
      ∃ r, Keyed.find? d.id store.records = some r ∧ d = Document.ofRecord r)
    (ready : (m.holding documents).Ready) : Bound store m₀ (m.holding documents) := by
  refine ⟨ready, fun key => ?_⟩
  rcases Memory.find?_holding m documents key with ⟨-, hsame⟩ | ⟨d, hd, rfl, hfound⟩
  · rw [Drift.target_congr hsame, h.target key]
  · obtain ⟨hid, r, hr, hrecord⟩ := hdocuments d hd
    rw [hrecord] at hfound
    rw [Drift.target_of_written hr (hrecord ▸ hfound)]
    exact (usable.written d.id hid r hr).symm

/-- Deleting what has no record does not change what a repair makes of the index. -/
theorem Bound.deleteDocument (h : Bound store m₀ m) {id : String}
    (hid : Keyed.find? id store.records = none)
    (ready : (m.answer (.deleteDocument id)).2.Ready) :
    Bound store m₀ (m.answer (.deleteDocument id)).2 := by
  refine ⟨ready, fun key => ?_⟩
  rw [← h.target key]
  by_cases hkey : key = id
  · rw [hkey, Drift.target_of_none hid, Drift.target_of_none hid]
  · refine Drift.target_congr ?_
    simp only [Memory.answer]
    split
    · exact Keyed.find?_erase_of_ne hkey m.documents
    · rfl

/-- Requests of a repair of a usable drift do not change what a repair makes of the index, also
where they fail. -/
theorem keeps_unreliable {drift : Drift} (usable : Usable store m₀ drift) :
    Keeps store True (unreliable store) (Bound store m₀) drift where
  quiet := quiet_unreliable _
  bulk documents hdocuments m h := by
    have hready := h.ready.answer (.bulk documents) (by simp)
    have hanswer := h.ready.accepting.answer_bulk h.ready.mapping documents
    rw [hanswer] at hready
    refine ends_unreliable (by rw [hanswer]) h ?_
    rw [hanswer]
    exact h.holding usable hdocuments hready
  delete id hid m h := by
    have hafter := h.deleteDocument (usable.extra id hid) (h.ready.answer _ (by simp))
    rintro answer m' (⟨rfl, rfl⟩ | ⟨⟨f, rfl⟩, rfl | rfl⟩)
    · cases (m.answer (.deleteDocument id)).1 with
      | ok value => exact hafter
      | error f => exact hafter
    · exact h
    · exact hafter
  refresh m h := by
    have hanswer : m.answer .refresh = (.ok (), { m with refreshes := m.refreshes + 1 }) :=
      Memory.ifExists_of_isSome h.ready.mapping _ _
    have hready := h.ready.answer .refresh (by simp)
    refine (ends_unreliable (by rw [hanswer]) h ⟨hready, fun key => ?_⟩).mono
      (fun _ _ h => h.2) fun _ _ h => h
    rw [← h.target key, hanswer]
    exact Drift.target_congr rfl

/-- A comparison of an index of which a repair makes the same is usable. -/
theorem Bound.usable (h : Bound store m₀ m) (hstore : store.Sound) :
    Usable store m₀ (ofSides store m) where
  written key hkey r hr := by
    rw [← h.target key, Drift.target_of_record hr,
      (Drift.mem_idsToIndex_ofSides hstore h.ready.sound hr).1 hkey]
    rfl
  extra key hkey := by
    have hstored := ((Drift.mem_extra hstore h.ready.sound).1 hkey).2
    simpa [Keyed.contains] using hstored

/-- However its calls fail, a comparison with its repair does not change what a repair makes of the
index. -/
theorem compareAndFix_bound (hstore : store.Sound) (client : Client) (options : SyncOptions)
    (sampleSize : Nat) (h : Bound store m₀ m) :
    (Sync.compareAndFix client options sampleSize true).Ends (unreliable store) m
      (fun _ => Bound store m₀) fun _ => Bound store m₀ := by
  have scan (m : Memory) (h : Bound store m₀ m) :
      (Task.index .scanFreshness).Ends (unreliable store) m
        (fun listing m' => Usable store m₀ (.against store listing) ∧ Bound store m₀ m')
        fun _ m' => True ∧ Bound store m₀ m' := by
    have hanswer : m.answer .scanFreshness =
        (.ok ((Keyed.values m.documents).map fun d => (d.id, d.lastHarvested)), m) :=
      Memory.ifExists_of_isSome h.ready.mapping _ _
    refine (ends_unreliable (by rw [hanswer]) h (by rw [hanswer]; exact h)).mono ?_ fun _ _ h => h
    rintro listing m' ⟨rfl, h'⟩
    exact ⟨h.usable hstore, h'⟩
  exact (compareAndFix_keeps (Usable store m₀) (quiet_unreliable _) hstore client options
    sampleSize scan (fun _ usable => keeps_unreliable usable) h).mono (fun _ _ h => h)
    fun _ _ h => h.2

/-- A comparison with its repair, and the fates of its calls. -/
structure Attempt where
  client : Client := {}
  options : SyncOptions := {}
  sampleSize : Nat := 0
  fates : Nat → Fate

/-- How an attempt ends. -/
def Attempt.outcome (attempt : Attempt) (s : Stage) : Except Failure CompareOutcome :=
  ((Sync.compareAndFix attempt.client attempt.options attempt.sampleSize true).attempt.run
    (struck attempt.fates Stage.handler) (0, s)).1

/-- What attempts in a row leave, however each of them ended. -/
def afterAttempts (attempts : List Attempt) (s : Stage) : Stage :=
  attempts.foldl (fun s attempt => s.leftBy attempt.fates
    (Sync.compareAndFix attempt.client attempt.options attempt.sampleSize true)) s

/-- How attempts in a row end. -/
def outcomes : List Attempt → Stage → List (Except Failure CompareOutcome)
  | [], _ => []
  | attempt :: rest, s => attempt.outcome s :: outcomes rest (afterAttempts [attempt] s)

/-- Whatever became of earlier attempts, a repair makes the same of what they left. -/
theorem afterAttempts_calm (hstore : store.Sound) (attempts : List Attempt) (journal : Journal)
    (h : Bound store m₀ m) :
    ∃ m' journal', afterAttempts attempts (calm store m journal) = calm store m' journal' ∧
      Bound store m₀ m' := by
  induction attempts generalizing m journal with
  | nil => exact ⟨m, journal, rfl, h⟩
  | cons attempt rest ih =>
    obtain ⟨m', journal', hstage, h'⟩ := Rehearsal.leftBy_calm journal attempt.fates
      (compareAndFix_bound hstore attempt.client attempt.options attempt.sampleSize h)
    obtain ⟨m'', journal'', hlast, h''⟩ := ih journal' h'
    exact ⟨m'', journal'', (congrArg (afterAttempts rest) hstage).trans hlast, h''⟩

/-- Without faults, a comparison with its repair succeeds and brings what was to be expected. -/
theorem compareAndFix_repairs (client : Client) (options : SyncOptions) (sampleSize : Nat)
    (journal : Journal) (hstore : store.Sound) (ready : m.Ready) :
    ∃ outcome m' journal',
      (calm store m journal).run (Sync.compareAndFix client options sampleSize true) =
        (.ok outcome, calm store m' journal') ∧
      Drift.Repaired store m m' [] ∧ m'.Sound ∧ m'.mapping.isSome = true := by
  have hends : (Sync.compareAndFix client options sampleSize true).Ends (inMemory store False)
      ⟨m, journal.events⟩
      (fun _ w' => (Drift.Repaired store m w'.index [] ∧ w'.index.mapping.isSome = true) ∧
        w'.index.Sound) fun _ _ => False := by
    refine (Task.Ends.sound ready.sound ?_).mono (fun _ _ h => h) fun _ _ h => h.1
    unfold Sync.compareAndFix
    refine (computeDrift_ends client ready.mapping).bind ?_ fun _ _ h => h
    rintro drift w₁ ⟨rfl, rfl⟩
    rw [if_pos rfl]
    refine (repair_ends client _ sampleSize hstore (Drift.nodup_idsToIndex hstore ready.sound)
      (Drift.nodup_extra hstore ready.sound) ready.sound ready.mapping).bind ?_ fun _ _ h => h
    rintro summary w₂ ⟨middle, h⟩
    have hnone : summary.failures.map (·.documentId) = [] := by
      refine List.eq_nil_iff_forall_not_mem.2 fun id hid => ?_
      have hrefused := ((h.mem_failures hstore ready.sound).1 hid).2
      rw [ready.accepting.takes] at hrefused
      cases hrefused
    have hrepaired := h.repaired hstore ready.sound
    rw [hnone] at hrepaired
    exact ⟨hrepaired, h.mapping⟩
  obtain ⟨outcome, m', journal', hrun, ⟨hrepaired, hmapping⟩, hsound⟩ := Rehearsal.run_calm hends
  exact ⟨outcome, m', journal', hrun, hrepaired, hsound, hmapping⟩

/-- After an attempt that is not disturbed, nothing drifts. -/
theorem isClean_of_repaired {m' : Memory} (h : Drift.Repaired store m m' [])
    (hstore : store.Sound) (sound : m.Sound) (sound' : m'.Sound) :
    (ofSides store m').isClean = true := by
  simp [Drift.isClean, h.missing_eq hstore sound sound', h.updated_eq hstore sound sound',
    h.extra_eq hstore sound sound']

/-- A repair can be restarted: after any number of attempts, each broken off by a fault before or
after any of its calls took effect, one attempt that is not disturbed leaves the documents that
it would have left at first, which are those of the records wherever there was none as fresh, and
no drift. -/
theorem repair_restarts (attempts : List Attempt) (client client' : Client)
    (options options' : SyncOptions) (sampleSize sampleSize' : Nat) {store : Store.Memory}
    {index : Memory} (journal : Journal) (hstore : store.Sound) (sound : index.Sound)
    (hmapping : index.mapping.isSome = true) (accepting : index.Accepting) :
    ∃ straight index₁ journal₁ resumed index₂ journal₂ drift journal₃,
      (calm store index journal).run (Sync.compareAndFix client options sampleSize true) =
        (.ok straight, calm store index₁ journal₁) ∧
      (afterAttempts attempts (calm store index journal)).run
          (Sync.compareAndFix client' options' sampleSize' true) =
        (.ok resumed, calm store index₂ journal₂) ∧
      index₂.documents = index₁.documents ∧
      (∀ key, Keyed.find? key index₂.documents = target store index key) ∧
      (calm store index₂ journal₂).run (computeDrift client') =
        (.ok drift, calm store index₂ journal₃) ∧
      drift.isClean = true := by
  have ready : index.Ready := ⟨sound, hmapping, accepting⟩
  obtain ⟨straight, index₁, journal₁, hstraight, hrepaired₁, sound₁, -⟩ :=
    compareAndFix_repairs client options sampleSize journal hstore ready
  have unchanged : Bound store index index := ⟨ready, fun _ => rfl⟩
  obtain ⟨m, journal', hstage, bound⟩ := afterAttempts_calm hstore attempts journal unchanged
  obtain ⟨resumed, index₂, journal₂, hresumed, hrepaired₂, sound₂, hmapping₂⟩ :=
    compareAndFix_repairs client' options' sampleSize' journal' hstore bound.ready
  obtain ⟨drift, index₃, journal₃, hdrift, rfl, hscene⟩ := Rehearsal.run_calm
    (computeDrift_ends (w := ⟨index₂, journal₂.events⟩) client' hmapping₂)
  obtain rfl : index₂ = index₃ := (congrArg Scene.index hscene).symm
  have brought (key : String) : Keyed.find? key index₂.documents = target store index key := by
    rw [hrepaired₂.find?_eq hstore bound.ready.sound, bound.target]
  refine ⟨straight, index₁, journal₁, resumed, index₂, journal₂, _, journal₃, hstraight, ?_, ?_,
    brought, hdrift, isClean_of_repaired hrepaired₂ hstore bound.ready.sound sound₂⟩
  · rw [hstage]
    exact hresumed
  · refine Keyed.eq_of_find?_eq sound₂.ascending sound₁.ascending fun key => ?_
    rw [brought, hrepaired₁.find?_eq hstore sound]

/-- A stale document and an extra one. -/
def staleIndex : Memory :=
  (({} : Memory).put { (default : Document) with id := "b", lastHarvested := some "2020-01-01" })
    |>.put { (default : Document) with id := "x" }

/-- The response to the second of several writes is lost, then the first question to the store fails
for want of something, then the write of what is left is refused. -/
def threeAborts : List Attempt :=
  [{ options := { repairBatchSize := 1 }
     fates := fun n => if n = 5 then .lost (.unavailable "reset") else .answered },
    { fates := fun n => if n = 0 then .refused (.notFound "gone") else .answered },
    { fates := fun n => if n = 3 then .refused (.malformed "truncated") else .answered }]

/-- Three attempts fail, one after the other; the next one updates the stale document and deletes
the extra one. -/
theorem repair_restarts_thrice :
    (outcomes threeAborts (calm (.ofIds ["a", "b", "c"]) staleIndex {}) =
      [.error (.unavailable "reset"),
        .error (.context "Failed to list store ids and timestamps" (.notFound "gone")),
        .error (.malformed "truncated")]) ∧
    ∃ straight index₁ journal₁ resumed index₂ journal₂ drift journal₃,
      (calm (.ofIds ["a", "b", "c"]) staleIndex {}).run (Sync.compareAndFix {} {} 5 true) =
        (.ok straight, calm (.ofIds ["a", "b", "c"]) index₁ journal₁) ∧
      (afterAttempts threeAborts (calm (.ofIds ["a", "b", "c"]) staleIndex {})).run
          (Sync.compareAndFix {} {} 5 true) =
        (.ok resumed, calm (.ofIds ["a", "b", "c"]) index₂ journal₂) ∧
      index₂.documents = index₁.documents ∧
      Keyed.find? "b" index₂.documents =
        some (Document.ofRecord { (default : Record) with id := "b" }) ∧
      Keyed.find? "x" index₂.documents = none ∧
      (calm (.ofIds ["a", "b", "c"]) index₂ journal₂).run (computeDrift {}) =
        (.ok drift, calm (.ofIds ["a", "b", "c"]) index₂ journal₃) ∧
      drift.isClean = true := by
  have sound : staleIndex.Sound := (Memory.sound_initial.put _).put _
  have accepting : staleIndex.Accepting := fun _ => rfl
  obtain ⟨straight, index₁, journal₁, resumed, index₂, journal₂, drift, journal₃, ran, again, same,
      brought, compared, clean⟩ :=
    repair_restarts threeAborts {} {} {} {} 5 5 {} (Store.Memory.sound_ofIds ["a", "b", "c"])
      sound rfl accepting
  refine ⟨?_, straight, index₁, journal₁, resumed, index₂, journal₂, drift, journal₃, ran, again,
    same, (brought "b").trans rfl, (brought "x").trans rfl, compared, clean⟩
  simp only [outcomes, threeAborts, Attempt.outcome, afterAttempts, List.foldl_cons,
    List.foldl_nil, Stage.leftBy, Sync.compareAndFix, repair, Drift.idsToIndex_eq_insertionSort]
  decide +kernel

end Repair

end CatalogSearch
