import CatalogSearch.Proofs.Rehearsal.Disturbed
import CatalogSearch.Proofs.Sync.FullSync
import Mathlib.Control.Monad.Basic

/-!
# Rebuilding an index

What a full sync does to the index of a rehearsal. Without faults it brings the index to exactly
the records from its first page on that the index takes, and reports each other one. Under any
schedule of faults, a run that succeeds has lost no record and counted none twice.
-/
namespace CatalogSearch.Sync

open Index (Client maxResubmissions)
open Rehearsal (Journal Schedule calm)

section Calm

variable {faulty : Prop} {store : Store.Memory} {startPage perPage : Nat} {w w' : Scene}
  {report : SyncReport}

/-- Without faults, the records that are not refused are those that the index takes. -/
theorem Synced.filter_not_refused (h : Synced faulty store startPage perPage w report w')
    (hcalm : ¬ faulty) :
    (store.fromPage startPage perPage).filter (fun r =>
        r.id ∉ report.errors.map (·.documentId)) =
      (store.fromPage startPage perPage).filter fun r => w.index.takes maxResubmissions r.id := by
  refine List.filter_congr fun r hr => ?_
  rw [Bool.eq_iff_iff, decide_eq_true_iff, h.refused_iff hcalm r hr, Bool.not_eq_false]

/-- Without faults, the other records have one refusal each. -/
theorem Synced.errors_perm (h : Synced faulty store startPage perPage w report w')
    (hstore : store.Sound) (hcalm : ¬ faulty) :
    (report.errors.map (·.documentId)).Perm
      (((store.fromPage startPage perPage).filter fun r =>
        !w.index.takes maxResubmissions r.id).map (·.id)) := by
  have hdistinct : (((store.fromPage startPage perPage).filter fun r =>
      !w.index.takes maxResubmissions r.id).map (·.id)).Nodup :=
    hstore.nodup_ids (List.filter_sublist.trans (List.drop_sublist _ _))
  refine (List.perm_ext_iff_of_nodup h.distinct hdistinct).2 fun id => ?_
  constructor
  · intro hid
    obtain ⟨r, hr, rfl⟩ := List.mem_map.1 (h.known id hid)
    refine List.mem_map_of_mem (List.mem_filter.2 ⟨hr, ?_⟩)
    rw [(h.refused_iff hcalm r hr).1 hid]
    rfl
  · intro hid
    obtain ⟨r, hr, rfl⟩ := List.mem_map.1 hid
    obtain ⟨hr, htakes⟩ := List.mem_filter.1 hr
    exact (h.refused_iff hcalm r hr).2 (by simpa using htakes)

/-- Without faults, the number of documents written is the number of records taken. -/
theorem Synced.succeeded_eq (h : Synced faulty store startPage perPage w report w')
    (hstore : store.Sound) (hcalm : ¬ faulty) :
    report.succeeded = ((store.fromPage startPage perPage).filter fun r =>
      w.index.takes maxResubmissions r.id).length := by
  have htotal := h.total
  have hlength := (h.errors_perm hstore hcalm).length_eq
  have hsplit := List.length_eq_countP_add_countP (fun r : Record =>
    w.index.takes maxResubmissions r.id) (l := store.fromPage startPage perPage)
  simp only [List.length_map, ← List.countP_eq_length_filter, Bool.not_eq_true,
    Bool.decide_eq_false] at hlength hsplit ⊢
  omega

end Calm

/-- Without faults, a full sync succeeds, and the index holds exactly those records from the first
page on that it takes. -/
theorem fullSync_rebuilds (client : Client) (options : SyncOptions) (startPage : Nat)
    {perPage : Nat} (recreateSchema : Bool) {store : Store.Memory} {index : Index.Memory}
    (journal : Journal) (hperPage : 1 ≤ perPage) (hstore : store.Sound)
    (fits : store.records.length ≤ Store.wordLimit) (sound : index.Sound) :
    ∃ report index' journal',
      (calm store index journal).run
          (fullSync client options startPage perPage recreateSchema) =
        (.ok report, calm store index' journal') ∧
      index'.documents =
        ((store.fromPage startPage perPage).filter fun r =>
          index.takes maxResubmissions r.id).map (fun r => (r.id, Document.ofRecord r)) ∧
      report.succeeded = ((store.fromPage startPage perPage).filter fun r =>
        index.takes maxResubmissions r.id).length ∧
      (report.errors.map (·.documentId)).Perm
        (((store.fromPage startPage perPage).filter fun r =>
          !index.takes maxResubmissions r.id).map (·.id)) ∧
      report.storeCount = store.records.length ∧
      report.indexBefore = index.documents.length ∧
      report.indexAfter = index'.documents.length ∧
      report.pages = (store.records.length + perPage - 1) / perPage + 1 - max startPage 1 ∧
      ∃ counts : List (Nat × Nat), counts.length = report.pages ∧
        (counts.map (·.1)).sum = report.succeeded ∧
        (counts.map (·.2)).sum = report.errors.length ∧
        journal'.events = journal.events ++
          .syncStarted store.records.length ((store.records.length + perPage - 1) / perPage) ::
            pageEvents ((store.records.length + perPage - 1) / perPage) (max startPage 1)
              counts := by
  have hends : (fullSync client options startPage perPage recreateSchema).Ends
      (inMemory store False) ⟨index, journal.events⟩
      (Synced False store startPage perPage ⟨index, journal.events⟩) fun _ _ => False :=
    fullSync_ends client options startPage recreateSchema hperPage hstore fits sound
  obtain ⟨report, index', journal', hrun, h⟩ := Rehearsal.run_calm hends
  refine ⟨report, index', journal', hrun, ?_, h.succeeded_eq hstore not_false,
    h.errors_perm hstore not_false, h.storeCount, h.indexBefore, h.indexAfter, h.pages, h.events⟩
  rw [← h.filter_not_refused not_false]
  exact h.documents

/-- Of three records, one waits too long and one is rejected; a stale document goes. -/
theorem fullSync_rebuilds_mixed :
    ∃ report index' journal',
      (calm (.ofIds ["a", "b", "c", "d"])
          (((({} : Index.Memory).put (default : Document)).reject "b" "mapper_parsing_exception"
            "bad field").throttle "c" 4 |>.throttle "d" 3) {}).run
          (fullSync {} {} 0 3 true) =
        (.ok report, calm (.ofIds ["a", "b", "c", "d"]) index' journal') ∧
      index'.documents.map (·.1) = ["a", "d"] ∧ report.succeeded = 2 ∧
      report.errors.length = 2 ∧ report.indexBefore = 1 ∧ report.pages = 2 := by
  have sound : Index.Memory.Sound (((({} : Index.Memory).put (default : Document)).reject "b"
      "mapper_parsing_exception" "bad field").throttle "c" 4 |>.throttle "d" 3) :=
    (((Index.Memory.sound_initial.put _).reject _ _ _).throttle _ _).throttle _ _
  obtain ⟨report, index', journal', hrun, hdocuments, hsucceeded, herrors, -, hbefore, -, hpages,
    -⟩ := fullSync_rebuilds {} {} 0 true {} (by decide : 1 ≤ 3)
      (Store.Memory.sound_ofIds ["a", "b", "c", "d"]) (by decide +kernel) sound
  refine ⟨report, index', journal', hrun, ?_, ?_, ?_, ?_, ?_⟩
  · rw [hdocuments]
    decide +kernel
  · rw [hsucceeded]
    decide +kernel
  · have hlength := herrors.length_eq
    rw [List.length_map] at hlength
    rw [hlength]
    decide +kernel
  · rw [hbefore]
    decide +kernel
  · rw [hpages]
    decide +kernel

/-- Under any schedule of faults, a full sync that succeeds counts every record once: it is in the
index as it is in the store, or it is among the refused ones, and nothing else is in the
index. -/
theorem fullSync_loses_nothing (schedule : Schedule) (client : Client) (options : SyncOptions)
    (startPage : Nat) {perPage : Nat} (recreateSchema : Bool) {store : Store.Memory}
    {index : Index.Memory} (journal : Journal) (hperPage : 1 ≤ perPage) (hstore : store.Sound)
    (fits : store.records.length ≤ Store.wordLimit) (sound : index.Sound) {report : SyncReport}
    (hrun : ((calm store index journal).runUnder schedule
      (fullSync client options startPage perPage recreateSchema)).1 = .ok report) :
    ∃ index' journal',
      ((calm store index journal).runUnder schedule
        (fullSync client options startPage perPage recreateSchema)).2 =
          calm store index' journal' ∧
      (report.errors.map (·.documentId)).Nodup ∧
      (∀ id ∈ report.errors.map (·.documentId),
        id ∈ (store.fromPage startPage perPage).map (·.id)) ∧
      report.succeeded + report.errors.length = (store.fromPage startPage perPage).length ∧
      index'.documents =
        ((store.fromPage startPage perPage).filter fun r =>
          r.id ∉ report.errors.map (·.documentId)).map fun r => (r.id, Document.ofRecord r) := by
  have hends : (fullSync client options startPage perPage recreateSchema).Ends
      (inMemory store True) ⟨index, journal.events⟩
      (Synced True store startPage perPage ⟨index, journal.events⟩) fun _ _ => True :=
    fullSync_ends client options startPage recreateSchema hperPage hstore fits sound
  obtain ⟨index', journal', hstage, h⟩ := Rehearsal.runUnder_calm schedule hends hrun
  exact ⟨index', journal', hstage, h.distinct, h.known, h.total, h.documents⟩

/-- A lost response costs one wait, so that a document is taken that would have been refused. -/
theorem fullSync_loses_nothing_lost_response :
    ∃ index' journal',
      ((calm (.ofIds ["a", "b", "c"])
        ((({} : Index.Memory).reject "c" "mapper_parsing_exception" "bad field").throttle "b" 4)
          {}).runUnder
        (.losing 6 (.unavailable "connection reset") rfl) (fullSync {} {} 0 2 false)).2 =
          calm (.ofIds ["a", "b", "c"]) index' journal' ∧
      index'.documents.map (·.1) = ["a", "b"] := by
  have sound : Index.Memory.Sound
      ((({} : Index.Memory).reject "c" "mapper_parsing_exception" "bad field").throttle "b" 4) :=
    (Index.Memory.sound_initial.reject _ _ _).throttle _ _
  have hrun : ((calm (.ofIds ["a", "b", "c"])
      ((({} : Index.Memory).reject "c" "mapper_parsing_exception" "bad field").throttle "b" 4)
        {}).runUnder
      (.losing 6 (.unavailable "connection reset") rfl) (fullSync {} {} 0 2 false)).1 =
        .ok ⟨3, 0, 2, false, true, 2, 2,
          [⟨"c", 400, "mapper_parsing_exception", "bad field", none⟩]⟩ := by
    decide +kernel
  obtain ⟨index', journal', hstage, -, -, -, hdocuments⟩ :=
    fullSync_loses_nothing _ {} {} 0 false {} (by decide : 1 ≤ 2)
      (Store.Memory.sound_ofIds ["a", "b", "c"]) (by decide +kernel) sound hrun
  refine ⟨index', journal', hstage, ?_⟩
  rw [hdocuments]
  decide +kernel

end CatalogSearch.Sync
