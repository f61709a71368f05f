import CatalogSearch.Proofs.Sync.Concurrent

/-!
# Runs converge

Full syncs and repairs that work on one index at the same time all succeed, in whatever order they
take their turns. The run that was the last to empty the index is a full sync, and at its end it has
brought back the whole store; nothing that another run does takes any of it away again.
-/
namespace CatalogSearch.Sync

open Index (Client Memory)
open Board (Valid sharing)
open Rehearsal (Journal Stage calm)

/-- One of several runs. -/
inductive Run where
  /-- A full sync from the first page on, into the index as it is. -/
  | fullSync (client : Client) (options : SyncOptions) (perPage : Nat) (positive : 1 ≤ perPage)
  /-- A comparison with its repair. -/
  | repair (client : Client) (options : SyncOptions) (sampleSize : Nat)

namespace Run

def job : Run → Job (Except Failure (SyncReport ⊕ CompareOutcome))
  | fullSync client options perPage _ =>
    Task.attempt do return .inl (← Sync.fullSync client options 1 perPage false)
  | repair client options sampleSize =>
    Task.attempt do return .inr (← compareAndFix client options sampleSize true)

def isFullSync : Run → Bool
  | fullSync _ _ _ _ => true
  | repair _ _ _ => false

/-- What is known of the index when a run is done. A repair has not emptied it. -/
def Leaves (store : Store.Memory) (i : Nat) : Run → Board → Prop
  | fullSync _ _ _ _, b => Written store i store.all b
  | repair _ _ _, b => b.emptier ≠ some i

variable {store : Store.Memory} {runs i : Nat}

/-- It remains known while others take their turns. -/
theorem stable_leaves (store : Store.Memory) (runs i : Nat) (run : Run) :
    (sharing store runs).Stable i (run.Leaves store i) := by
  cases run with
  | fullSync client options perPage positive => exact Written.stable store runs i store.all
  | repair client options sampleSize => exact fun _ _ _ relies h hi => h (relies.emptier hi)

/-- Beside other runs, a run succeeds. -/
theorem job_view (run : Run) (hi : i < runs) (hstore : store.Sound)
    (fits : store.records.length ≤ Store.wordLimit) {b : Board} (hvalid : Valid store runs b)
    (hb : b.emptier ≠ some i) :
    run.job.Ends ((sharing store runs).view i) (some b) fun outcome =>
      (sharing store runs).Holds fun b' => (∃ value, outcome = .ok value) ∧
        run.Leaves store i b' := by
  cases run with
  | fullSync client options perPage positive =>
    have hends : (do return .inl (← Sync.fullSync client options 1 perPage false) :
        Task (SyncReport ⊕ CompareOutcome)).Ends ((sharing store runs).view i) (some b)
          (fun _ => (sharing store runs).Holds (Written store i store.all)) fun _ _ => False :=
      (fullSync_view hi hstore fits client options positive ⟨b, rfl, hvalid, trivial⟩).bind
        (fun _ _ h => h) fun _ _ h => h
    refine hends.attempt (fun value _ h => ?_) fun _ _ h => h.elim
    exact h.mono fun _ _ hwritten => ⟨⟨value, rfl⟩, hwritten⟩
  | repair client options sampleSize =>
    have stable := stable_leaves store runs i (.repair client options sampleSize)
    have hends : (do return .inr (← compareAndFix client options sampleSize true) :
        Task (SyncReport ⊕ CompareOutcome)).Ends ((sharing store runs).view i) (some b)
          (fun _ => (sharing store runs).Holds fun b' => b'.emptier ≠ some i) fun _ _ => False :=
      (compareAndFix_view stable hi hstore client options sampleSize ⟨b, rfl, hvalid, hb⟩).bind
        (fun _ _ h => h) fun _ _ h => h
    refine hends.attempt (fun value _ h => ?_) fun _ _ h => h.elim
    exact h.mono fun _ _ hspared => ⟨⟨value, rfl⟩, hspared⟩

end Run

variable {store : Store.Memory}

/-- A calm rehearsal does what the effects of runs do on a board. -/
theorem mirrors_calm (store : Store.Memory) (runs : Nat) :
    (sharing store runs).Mirrors Stage.handler
      fun s b => ∃ journal, s = calm store b.index journal := by
  rintro i effect s b ⟨journal, rfl⟩
  obtain ⟨journal', hanswer⟩ := Rehearsal.handler_calm store b.index journal effect
  exact ⟨congrArg Prod.fst hanswer, journal', congrArg Prod.snd hanswer⟩

/-- What is known of the outcome of each run. -/
def Known (store : Store.Memory) (runs : List Run) (i : Nat)
    (outcome : Except Failure (SyncReport ⊕ CompareOutcome)) (b : Board) : Prop :=
  (∃ value, outcome = .ok value) ∧ ∀ run, runs[i]? = some run → run.Leaves store i b

theorem Known.stable (store : Store.Memory) (runs : List Run) (i : Nat)
    (outcome : Except Failure (SyncReport ⊕ CompareOutcome)) :
    (sharing store runs.length).Stable i (Known store runs i outcome) :=
  fun b b' hvalid relies h => ⟨h.1, fun run hrun =>
    run.stable_leaves store runs.length i b b' hvalid relies (h.2 run hrun)⟩

/-- Before the first turn, each run is known to end well. -/
theorem agree_initial (runs : List Run) {index : Memory} (hstore : store.Sound)
    (fits : store.records.length ≤ Store.wordLimit) (ready : index.Ready) :
    (sharing store runs.length).Agree (Known store runs) (runs.map Run.job) ⟨index, none⟩ := by
  have hvalid : Valid store runs.length ⟨index, none⟩ := ⟨ready, nofun, fun h => absurd rfl h⟩
  refine ⟨List.length_map .., hvalid, fun i job hjob => ?_⟩
  rw [List.getElem?_map] at hjob
  obtain ⟨run, hrun, rfl⟩ := Option.map_eq_some_iff.1 hjob
  have hi : i < runs.length := (List.getElem?_eq_some_iff.1 hrun).1
  refine (run.job_view hi hstore fits hvalid nofun).mono fun outcome _ h => ?_
  refine h.mono fun b _ hb => ⟨hb.1, fun run' hrun' => ?_⟩
  rw [hrun] at hrun'
  obtain rfl := Option.some.inj hrun'
  exact hb.2

/-- When every run is done and one of them was a full sync, the index is that of the store. -/
theorem documents_of_done {runs : List Run} {b : Board} (hstore : store.Sound)
    (hvalid : Valid store runs.length b) (hsync : ∃ run ∈ runs, run.isFullSync = true)
    (leaves : ∀ i (run : Run), runs[i]? = some run → run.Leaves store i b) :
    b.index.documents = store.documents := by
  have hemptied : b.emptier ≠ none := by
    obtain ⟨run, hrun, hfull⟩ := hsync
    obtain ⟨i, hi⟩ := List.mem_iff_getElem?.1 hrun
    have hleaves := leaves i run hi
    cases run with
    | fullSync client options perPage positive => exact hleaves.emptied
    | repair client options sampleSize => cases hfull
  -- Of all runs, the one that was the last to empty the index knows that all records are there.
  have hfound : ∀ r ∈ store.all,
      Keyed.find? r.id b.index.documents = Keyed.find? r.id store.documents := by
    obtain ⟨i, hi⟩ := Option.ne_none_iff_exists'.1 hemptied
    obtain ⟨run, hrun⟩ : ∃ run, runs[i]? = some run :=
      ⟨_, List.getElem?_eq_getElem (hvalid.known i hi)⟩
    have hleaves := leaves i run hrun
    cases run with
    | fullSync client options perPage positive => exact hleaves.found hi
    | repair client options sampleSize => exact absurd hi hleaves
  have hascending : Keyed.Ascending store.documents :=
    Keyed.ascending_map Document.ofRecord hstore.ascending
  refine Keyed.eq_of_find?_eq hvalid.ready.sound.ascending hascending fun key => ?_
  refine (hvalid.fresh hemptied key).elim (fun hnone => ?_) id
  cases hr : Keyed.find? key store.records with
  | none => rw [hnone, store.find?_documents, hr, Option.map_none]
  | some r =>
    have hmem := Keyed.mem_of_find? hr
    obtain rfl : r.id = key := hstore.keyed (key, r) hmem
    exact hfound r (List.mem_map_of_mem hmem)

/-- Any number of full syncs and repairs, of which at least one is a full sync, take turns on one
index that takes every document. In whatever order they do so, each that is done has succeeded, and
when all are done the index holds exactly the documents of the records; and all are done after some
time if each gets its turn again and again. -/
theorem runs_converge (runs : List Run) {store : Store.Memory} {index : Memory}
    (journal : Journal) (hstore : store.Sound) (fits : store.records.length ≤ Store.wordLimit)
    (sound : index.Sound) (hmapping : index.mapping.isSome = true) (accepting : index.Accepting)
    (hsync : ∃ run ∈ runs, run.isFullSync = true) :
    (∀ turns jobs stage,
      Job.interleave Stage.handler turns (runs.map Run.job) (calm store index journal) =
        (jobs, stage) →
      (∀ outcome, .done outcome ∈ jobs → ∃ value, outcome = .ok value) ∧
      ((∀ job ∈ jobs, job.isDone = true) → ∃ index' journal', stage = calm store index' journal' ∧
        index'.documents = store.records.map fun e => (e.1, Document.ofRecord e.2))) ∧
    ∀ turns, Job.Fair runs.length turns →
      ∃ t, ∀ job ∈ (Job.after Stage.handler turns (runs.map Run.job)
        (calm store index journal) t).1, job.isDone = true := by
  constructor
  · intro turns jobs stage hturns
    obtain ⟨b, ⟨journal', hstage⟩, agree⟩ :=
      (agree_initial runs hstore fits ⟨sound, hmapping, accepting⟩).interleave
        (mirrors_calm store runs.length) (Known.stable store runs) ⟨journal, rfl⟩ turns
    rw [hturns] at hstage agree
    refine ⟨fun outcome hdone => ?_, fun hdone => ⟨b.index, journal', hstage, ?_⟩⟩
    · obtain ⟨i, hi⟩ := List.mem_iff_getElem?.1 hdone
      exact (agree.of_done hi).1
    · refine documents_of_done hstore agree.valid hsync fun i run hrun => ?_
      have hi : i < jobs.length := by
        rw [agree.parties]
        exact (List.getElem?_eq_some_iff.1 hrun).1
      have hjob := List.getElem?_eq_getElem hi
      have hlast := hdone jobs[i] (List.getElem_mem hi)
      generalize jobs[i] = job at hjob hlast
      cases job with
      | done outcome => exact (agree.of_done hjob).2 run hrun
      | ask effect next => cases hlast
  · intro turns fair
    exact Job.exists_all_done (by rwa [List.length_map]) _

/-- Two full syncs with pages of different sizes and a repair. -/
def threeRuns : List Run :=
  [.fullSync {} {} 2 (by decide), .repair {} {} 5, .fullSync {} {} 1 (by decide)]

/-- Round and round, two full syncs and a repair replace a document that has no record. -/
theorem runs_converge_round_robin :
    ∃ t jobs index' journal',
      Job.after Stage.handler (fun t => t % 3) (threeRuns.map Run.job)
        (calm (.ofIds ["a", "b", "c"]) (({} : Memory).put { (default : Document) with id := "x" })
          {}) t = (jobs, calm (.ofIds ["a", "b", "c"]) index' journal') ∧
      (∀ job ∈ jobs, job.isDone = true) ∧ index'.ids = ["a", "b", "c"] := by
  have accepting : (({} : Memory).put { (default : Document) with id := "x" }).Accepting :=
    fun _ => rfl
  obtain ⟨converge, finish⟩ := runs_converge threeRuns {}
    (Store.Memory.sound_ofIds ["a", "b", "c"]) (by decide +kernel)
    (Index.Memory.sound_initial.put _) rfl accepting ⟨_, List.mem_cons_self, rfl⟩
  have fair : Job.Fair threeRuns.length fun t => t % 3 := by
    intro i hi t
    exact ⟨3 * t + i, by omega, (Nat.mul_add_mod 3 t i).trans (Nat.mod_eq_of_lt hi)⟩
  obtain ⟨t, hdone⟩ := finish _ fair
  obtain ⟨-, hlast⟩ := converge _ _ _ rfl
  obtain ⟨index', journal', hstage, hdocuments⟩ := hlast hdone
  refine ⟨t, _, index', journal', Prod.ext rfl hstage, hdone, ?_⟩
  rw [Memory.ids, hdocuments]
  decide +kernel

end CatalogSearch.Sync
