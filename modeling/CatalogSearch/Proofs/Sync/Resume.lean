import CatalogSearch.Proofs.Index.Accepting
import CatalogSearch.Proofs.Rehearsal.Struck
import CatalogSearch.Proofs.Sync.Milestones
import CatalogSearch.Proofs.Sync.Rebuild

/-!
# Resuming a full sync

A full sync that gives up a page names it, and the pages before it are in the index. Another full
sync can begin with that page; but it empties the index first, as every run does, so that the pages
before it are gone.
-/
namespace CatalogSearch

/-- The page that a failure names, whatever its contexts. -/
def Failure.page? (f : Failure) : Option Nat :=
  match f.root with
  | .retriesExhausted page _ _ => some page
  | .pageFailed page _ => some page
  | _ => none

theorem Failure.page?_pageFailure (page : Nat) (given : Retry.GivenUp) :
    (Sync.pageFailure page given).page? = some page := by
  unfold Sync.pageFailure
  split <;> rfl

namespace Sync

open Index (Client Memory)
open Rehearsal (Fate Journal Stage calm handler_calm struck struck_follows unreliable)

variable {store : Store.Memory} {m : Memory}

/-- A store and an index never name a page themselves. -/
theorem page?_of_answer {call : Index.Call} {f : Failure} (fails : (m.answer call).1 = .error f) :
    f.page? = none := by
  have missing {α : Type} {value : α} {after : Memory}
      (fails : (m.ifExists value after).1 = .error f) : f.page? = none := by
    unfold Memory.ifExists at fails
    split at fails
    · cases fails
    · cases fails
      rfl
  cases call with
  | «exists» => cases fails
  | create mapping =>
    simp only [Memory.answer] at fails
    split at fails <;> cases fails
    rfl
  | mapping =>
    simp only [Memory.answer] at fails
    split at fails <;> cases fails
    rfl
  | bulk documents => cases fails
  | deleteDocument id =>
    simp only [Memory.answer] at fails
    split at fails <;> cases fails
    rfl
  | _ => exact missing fails

/-- The answer is no failure that names a page. -/
def Unnamed : (effect : Effect) → effect.Answer → Prop
  | .store _, answer => ∀ f, answer = .error f → f.page? = none
  | .index _, answer => ∀ f, answer = .error f → f.page? = none
  | _, _ => True

/-- Calls to a store and an index in memory of which each may fail, before it took effect or after,
with a failure that names no page. -/
def troubled (store : Store.Memory) : Semantics Memory :=
  fun effect m answer m' => unreliable store effect m answer m' ∧ Unnamed effect answer

theorem still_troubled : Still (troubled store) where
  log _ _ _ _ step := step.1
  pause _ _ _ _ step := step.1
  report _ _ _ _ step := step.1

theorem ends_troubled (call : Index.Call) :
    (Task.index call).Ends (troubled store) m
      (fun a m' => (m.answer call).1 = .ok a ∧ m' = (m.answer call).2)
      (fun f m' => f.page? = none ∧ (m' = m ∨ m' = (m.answer call).2)) := by
  rintro answer m' ⟨step, unnamed⟩
  cases answer with
  | ok a =>
    rcases step with ⟨outcome, left⟩ | ⟨⟨f, fails⟩, -⟩
    · exact ⟨outcome.symm, left⟩
    · cases fails
  | error f =>
    rcases step with ⟨-, left⟩ | ⟨-, left⟩
    · exact ⟨unnamed f rfl, .inr left⟩
    · exact ⟨unnamed f rfl, left⟩

/-- A call that is struck shows its own failure or that of its fate. -/
theorem page?_of_strike {α σ : Type} {fate : Fate} {before : σ} {outcome : Except Failure α × σ}
    (own : ∀ f, outcome.1 = .error f → f.page? = none)
    (unnamed : ∀ f, fate = .refused f ∨ fate = .lost f → f.page? = none) {f : Failure}
    (fails : (fate.strike before outcome).1 = .error f) : f.page? = none := by
  cases fate with
  | answered => exact own f fails
  | refused g =>
    cases fails
    exact unnamed f (.inl rfl)
  | lost g =>
    cases fails
    exact unnamed f (.inr rfl)

/-- Whatever becomes of the calls, as long as no failure names a page. -/
theorem struck_troubled (store : Store.Memory) (fates : Nat → Fate)
    (unnamed : ∀ n f, fates n = .refused f ∨ fates n = .lost f → f.page? = none) :
    Job.Follows (struck fates Stage.handler)
      (fun s m => ∃ journal, s.2 = calm store m journal) (troubled store) := by
  rintro effect ⟨n, s⟩ m shown
  obtain ⟨m', step, shown'⟩ := struck_follows store fates effect (n, s) m shown
  refine ⟨m', ⟨step, ?_⟩, shown'⟩
  obtain ⟨journal, rfl⟩ := shown
  obtain ⟨journal', answered⟩ := handler_calm store m journal effect
  cases effect with
  | store call =>
    intro f fails
    simp only [struck, answered] at fails
    refine page?_of_strike (fun f fails => ?_) (unnamed n) fails
    cases call <;> cases fails
  | index call =>
    intro f fails
    simp only [struck, answered] at fails
    refine page?_of_strike (fun f fails => ?_) (unnamed n) fails
    exact page?_of_answer fails
  | _ => trivial

/-- An index as it can come about that takes every document. -/
def Sane (m : Memory) : Prop := m.Sound ∧ m.Accepting

theorem Sane.answer (h : Sane m) (call : Index.Call) : Sane (m.answer call).2 :=
  ⟨h.1.answer call, h.2.answer call⟩

/-- What is known when so many pages are written: their records are there. -/
structure Through (store : Store.Memory) (perPage n k : Nat) (m : Memory) : Prop where
  counted : n = store.records.length
  sane : Sane m
  found : ∀ r ∈ store.all.take (k * perPage),
    Keyed.find? r.id m.documents = some (Document.ofRecord r)

theorem Through.of_documents {perPage n k : Nat} {m' : Memory} (h : Through store perPage n k m)
    (sane : Sane m') (same : m'.documents = m.documents) : Through store perPage n k m' where
  counted := h.counted
  sane := sane
  found r mem := by
    rw [same]
    exact h.found r mem

theorem Through.ifExists {perPage n k : Nat} {α : Type} {value : α} {after : Memory}
    (h : Through store perPage n k m) (sane : Sane (m.ifExists value after).2)
    (same : after.documents = m.documents) :
    Through store perPage n k (m.ifExists value after).2 := by
  refine h.of_documents sane ?_
  unfold Memory.ifExists
  split
  · exact same
  · rfl

/-- A request that keeps what is known keeps it also where it is struck. -/
theorem ends_kept {inv : Memory → Prop} (call : Index.Call)
    (kept : ∀ m, inv m → inv (m.answer call).2) (hm : inv m) :
    (Task.index call).Ends (troubled store) m (fun _ => inv)
      fun f m' => f.page? = none ∧ inv m' := by
  refine (ends_troubled call).mono ?_ ?_
  · rintro a m' ⟨-, rfl⟩
    exact kept m hm
  · rintro f m' ⟨unnamed, rfl | rfl⟩
    · exact ⟨unnamed, hm⟩
    · exact ⟨unnamed, kept m hm⟩

theorem ensureSchema_kept (hm : Sane m) :
    Client.ensureSchema.Ends (troubled store) m (fun _ => Sane)
      fun f m' => f.page? = none ∧ Sane m' := by
  refine Client.ensureSchema_rule Sane (still_troubled.idle _)
    ((ends_kept .exists (fun _ h => h.answer _) hm).mono (fun found m' h => ?_) fun _ _ h => h)
    fun m' h => ends_kept (.create Index.fixedMapping) (fun _ h => h.answer _) h
  cases found <;> exact h

/-- A question to the store. -/
theorem store_troubled {call : Store.Call} {value : call.Answer}
    (answers : store.answer call = .ok value) :
    (Task.store call).Ends (troubled store) m (fun a m' => a = value ∧ m' = m)
      fun f m' => f.page? = none ∧ m' = m := by
  rintro answer m' ⟨⟨rfl, rfl | ⟨f, rfl⟩⟩, unnamed⟩
  · rw [answers]
    exact ⟨rfl, rfl⟩
  · exact ⟨unnamed f rfl, rfl⟩

/-- A page is written as a whole, or the pages before it are still there. -/
theorem page_through (client : Client) (hstore : store.Sound)
    (fits : store.records.length ≤ Store.wordLimit) {perPage n k : Nat}
    (hm : Through store perPage n k m) :
    (syncPage client (k + 1) perPage).Ends (troubled store) m
      (fun _ => Through store perPage n (k + 1))
      fun _ m' => True ∧ Through store perPage n k m' := by
  -- The documents of the page are written whether or not the answer arrives.
  have written : ∀ m, Through store perPage n k m → Through store perPage n (k + 1)
      (m.answer (.bulk ((store.pages (k + 1) perPage 1).map Document.ofRecord))).2 := by
    intro m hm
    refine ⟨hm.counted, hm.sane.answer _, fun r mem => ?_⟩
    have inside : r ∈ store.all := List.mem_of_mem_take mem
    have touched : m.touch.Accepting := hm.sane.2.congr rfl rfl
    simp only [Memory.answer, touched.writeAll]
    have own : ∀ s ∈ store.pages (k + 1) perPage 1, s.id = r.id → s = r := fun s hs same =>
      hstore.eq_of_id inside ((store.pages_sublist (k + 1) perPage 1).subset hs) same
    refine (find?_holding_records_iff own).2 ?_
    rw [Nat.succ_mul, List.take_add, List.mem_append] at mem
    refine mem.symm.imp (fun later => ?_) fun earlier => hm.found r earlier
    rwa [Store.Memory.pages, Nat.add_sub_cancel, Nat.one_mul]
  have earlier {m' : Memory} (h : Through store perPage n (k + 1) m') :
      Through store perPage n k m' := by
    refine ⟨h.counted, h.sane, fun r mem => h.found r ?_⟩
    rw [Nat.succ_mul, List.take_add]
    exact List.mem_append_left _ mem
  unfold syncPage
  refine ((store_troubled (store.answer_page fits (k + 1) perPage)).mono (fun _ _ h => h)
    fun _ _ h => h.2).withContext.bind ?_ ?_
  · rintro records m' ⟨rfl, rfl⟩
    refine client.upsertBatch_ends_of_taken (fun _ => ?_) fun empty => ?_
    · refine (ends_troubled _).mono ?_ ?_
      · rintro outcomes after ⟨answered, rfl⟩
        have touched : m'.touch.Accepting := hm.sane.2.congr rfl rfl
        simp only [Memory.answer, touched.writeAll, Except.ok.injEq] at answered
        exact ⟨answered.symm, written m' hm⟩
      · rintro f after ⟨-, rfl | rfl⟩
        · exact ⟨trivial, hm⟩
        · exact ⟨trivial, earlier (written m' hm)⟩
    · have nothing := (written m' hm).found
      rw [empty] at nothing
      exact ⟨hm.counted, hm.sane, nothing⟩
  · rintro f m' rfl
    exact ⟨trivial, hm⟩

theorem milestones_troubled (client : Client) (hstore : store.Sound)
    (fits : store.records.length ≤ Store.wordLimit) (perPage : Nat) :
    Milestones (troubled store) client perPage (fun f => f.page? = none) (fun _ => True) Sane Sane
      Sane (Through store perPage) where
  toStill := still_troubled
  context _ _ h := h
  count m hm := (ends_kept .count (fun _ h => h.answer _) hm).mono (fun _ _ h => h)
    fun _ _ h => ⟨.inr h.1, h.2⟩
  ensure m hm := ensureSchema_kept hm
  deleteAll m hm := ends_kept .deleteAll (fun _ h => h.answer _) hm
  countAll m hm := (store_troubled rfl).mono
    (fun n m' h => ⟨h.1, h.2 ▸ hm, by simp⟩) fun _ _ h => h.1
  page n k m _ hm := page_through client hstore fits hm
  refresh n m hm := ends_kept .refresh (fun _ h => h.ifExists (h.sane.answer .refresh) rfl) hm
  recount n m hm := ends_kept .count (fun _ h => h.ifExists (h.sane.answer .count) rfl) hm

/-- There are records behind each page that is not the last. -/
theorem lt_of_lt_pageCount {perPage n k : Nat} (paged : 1 ≤ perPage)
    (within : k < pageCount n perPage) : k * perPage < n := by
  have pages : (k + 1) * perPage ≤ n + perPage - 1 :=
    (Nat.le_div_iff_mul_le paged).1 within
  rw [Nat.succ_mul] at pages
  omega

/-- A run that ends with a failure that names a page has written all pages before it, and there are
records on the page and behind it. -/
theorem fullSync_names_page (fates : Nat → Fate) (client : Client) (options : SyncOptions)
    {perPage : Nat} {index : Memory} (journal : Journal) (paged : 1 ≤ perPage)
    (hstore : store.Sound) (fits : store.records.length ≤ Store.wordLimit) (sane : Sane index)
    (unnamed : ∀ n f, fates n = .refused f ∨ fates n = .lost f → f.page? = none)
    {failure : Failure} {page calls : Nat} {left : Stage}
    (aborted : (fullSync client options 1 perPage false).attempt.run (struck fates Stage.handler)
      (0, calm store index journal) = (.error failure, calls, left))
    (named : failure.page? = some page) :
    ∃ before journal', left = calm store before journal' ∧ 1 ≤ page ∧
      (page - 1) * perPage < store.records.length ∧
      Through store perPage store.records.length (page - 1) before := by
  have ends := (milestones_troubled client hstore fits perPage).fullSync_ends options paged sane
  obtain ⟨before, ⟨journal', shown⟩, post⟩ := Job.Ends.run
    (struck_troubled store fates unnamed) (s := (0, calm store index journal)) ⟨journal, rfl⟩ ends
  rw [aborted] at shown post
  rcases post with raw | ⟨n, k, given, within, rfl, -, through⟩
  · rw [named] at raw
    cases raw
  · rw [Failure.page?_pageFailure] at named
    cases named
    obtain rfl := through.counted
    refine ⟨before, journal', shown, Nat.le_add_left 1 k, ?_, through⟩
    exact lt_of_lt_pageCount paged within

/-- Without faults, a full sync of an index that takes every document leaves exactly the records
from its first page on. -/
theorem run_fullSync (client : Client) (options : SyncOptions) (page : Nat) {perPage : Nat}
    {index : Memory} (journal : Journal) (paged : 1 ≤ perPage) (hstore : store.Sound)
    (fits : store.records.length ≤ Store.wordLimit) (sane : Sane index) :
    ∃ report after journal',
      (calm store index journal).run (fullSync client options page perPage false) =
        (.ok report, calm store after journal') ∧
      after.documents =
        (store.fromPage page perPage).map fun r => (r.id, Document.ofRecord r) := by
  have ends : (fullSync client options page perPage false).Ends (inMemory store False)
      ⟨index, journal.events⟩ (Synced False store page perPage ⟨index, journal.events⟩)
      fun _ _ => False :=
    fullSync_ends client options page false paged hstore fits sane.1
  obtain ⟨report, after, journal', run, synced⟩ := Rehearsal.run_calm ends
  refine ⟨report, after, journal', run, ?_⟩
  have all : ∀ r ∈ store.fromPage page perPage,
      index.takes Index.maxResubmissions r.id = true := fun r _ => sane.2.takes _ r.id
  rw [synced.documents, synced.filter_not_refused not_false, List.filter_eq_self.2 all]

/-- The records from a page on are all records exactly if nothing stands before the page. -/
theorem holds_all_iff (hstore : store.Sound) {skipped : Nat}
    (inside : skipped < store.records.length) :
    (∀ r ∈ store.all, Keyed.find? r.id
      ((store.all.drop skipped).map fun r => (r.id, Document.ofRecord r)) =
        some (Document.ofRecord r)) ↔ skipped = 0 := by
  have ascend := hstore.ids_ascend
  constructor
  · intro complete
    by_contra some
    obtain ⟨before, rfl⟩ := Nat.exists_eq_succ_of_ne_zero some
    rw [← store.length_all] at inside
    obtain ⟨r, rest, all⟩ := List.exists_cons_of_length_pos (Nat.zero_lt_of_lt inside)
    rw [all] at complete ascend
    -- The first record is found under its own id, which no later record has.
    have found := Keyed.mem_of_find? (complete r List.mem_cons_self)
    obtain ⟨s, mem, same⟩ := List.mem_map.1 found
    have key : s.id = r.id := congrArg Prod.fst same
    have less := (List.pairwise_cons.1 ascend).1 s (List.mem_of_mem_drop mem)
    rw [key] at less
    exact String.lt_irrefl r.id less
  · rintro rfl r mem
    refine Keyed.find?_of_mem (e := (r.id, Document.ofRecord r)) (List.pairwise_map.2 ascend) ?_
    exact List.mem_map_of_mem mem

/-- A full sync that gives up a page has brought all pages before it to the index. The full sync
that begins with this page succeeds, and leaves exactly the records from it on: the others are
gone, so the index is complete only if it was the first page. -/
theorem fullSync_resumed (fates : Nat → Fate) (client client' : Client)
    (options options' : SyncOptions) {perPage : Nat} {index : Memory} (journal : Journal)
    (paged : 1 ≤ perPage) (hstore : store.Sound)
    (fits : store.records.length ≤ Store.wordLimit) (sound : index.Sound)
    (accepting : index.Accepting)
    (unnamed : ∀ n f, fates n = .refused f ∨ fates n = .lost f → f.page? = none)
    {failure : Failure} {page calls : Nat} {left : Stage}
    (aborted : (fullSync client options 1 perPage false).attempt.run (struck fates Stage.handler)
      (0, calm store index journal) = (.error failure, calls, left))
    (named : failure.page? = some page) :
    ∃ before after journal₁ journal₂ report,
      left = calm store before journal₁ ∧ 1 ≤ page ∧
      (page - 1) * perPage < store.records.length ∧
      (∀ r ∈ store.all.take ((page - 1) * perPage),
        Keyed.find? r.id before.documents = some (Document.ofRecord r)) ∧
      left.run (fullSync client' options' page perPage false) =
        (.ok report, calm store after journal₂) ∧
      after.documents = (store.all.drop ((page - 1) * perPage)).map
        (fun r => (r.id, Document.ofRecord r)) ∧
      ((∀ r ∈ store.all, Keyed.find? r.id after.documents = some (Document.ofRecord r)) ↔
        page = 1) := by
  obtain ⟨before, journal₁, rfl, first, inside, through⟩ := fullSync_names_page fates client options
    journal paged hstore fits ⟨sound, accepting⟩ unnamed aborted named
  obtain ⟨report, after, journal₂, run, documents⟩ :=
    run_fullSync client' options' page journal₁ paged hstore fits through.sane
  rw [Store.Memory.fromPage, Nat.max_eq_left first] at documents
  refine ⟨before, after, journal₁, journal₂, report, rfl, first, inside, through.found, run,
    documents, ?_⟩
  rw [documents, holds_all_iff hstore inside, Nat.mul_eq_zero]
  omega

/-- The fates by which one call is refused and all others are answered. -/
def refusing (refused : Nat) (failure : Failure) (n : Nat) : Fate :=
  if n = refused then .refused failure else .answered

theorem refusing_unnamed {refused : Nat} {failure : Failure} (unnamed : failure.page? = none)
    (n : Nat) (f : Failure)
    (fate : refusing refused failure n = .refused f ∨ refusing refused failure n = .lost f) :
    f.page? = none := by
  unfold refusing at fate
  split at fate
  · rcases fate with fate | fate
    · cases fate
      exact unnamed
    · cases fate
  · rcases fate with fate | fate <;> cases fate

/-- The bulk request of the second of three pages is refused. -/
theorem fullSync_resumed_second :
    ∃ before after journal₁ journal₂ report,
      ((fullSync {} {} 1 1 false).attempt.run
        (struck (refusing 8 (.malformed "no items")) Stage.handler)
        (0, calm (.ofIds ["a", "b", "c"]) {} {})).2.2 =
          calm (.ofIds ["a", "b", "c"]) before journal₁ ∧
      (calm (.ofIds ["a", "b", "c"]) before journal₁).run (fullSync {} {} 2 1 false) =
        (.ok report, calm (.ofIds ["a", "b", "c"]) after journal₂) ∧
      after.documents.map (·.1) = ["b", "c"] := by
  have failed : ((fullSync {} {} 1 1 false).attempt.run
      (struck (refusing 8 (.malformed "no items")) Stage.handler)
      (0, calm (.ofIds ["a", "b", "c"]) {} {})).1 =
        .error (.pageFailed 2 (.malformed "no items")) := by
    decide +kernel
  obtain ⟨before, after, journal₁, journal₂, report, left, -, -, -, run, documents, -⟩ :=
    fullSync_resumed (refusing 8 (.malformed "no items")) {} {} {} {} {} (by decide : 1 ≤ 1)
      (Store.Memory.sound_ofIds ["a", "b", "c"]) (by decide +kernel) Memory.sound_initial
      (fun _ => rfl) (refusing_unnamed rfl) (Prod.ext failed rfl) rfl
  refine ⟨before, after, journal₁, journal₂, report, left, left ▸ run, ?_⟩
  rw [documents]
  decide +kernel

/-- A run gives up the second of two pages. The run that begins with it drops the first record. -/
theorem fullSync_resume_drops :
    ((fullSync {} {} 1 1 false).attempt.run
        (struck (refusing 8 (.malformed "no items")) Stage.handler)
        (0, calm (.ofIds ["a", "b"]) {} {})).1 =
      .error (.pageFailed 2 (.malformed "no items")) ∧
    ∃ report after journal,
      ((fullSync {} {} 1 1 false).attempt.run
        (struck (refusing 8 (.malformed "no items")) Stage.handler)
        (0, calm (.ofIds ["a", "b"]) {} {})).2.2.run (fullSync {} {} 2 1 false) =
          (.ok report, calm (.ofIds ["a", "b"]) after journal) ∧
      report.storeCount = 2 ∧ Keyed.keys after.documents = ["b"] := by
  refine ⟨by decide +kernel, _, _, _, rfl, ?_, ?_⟩
  · decide +kernel
  · decide +kernel

end Sync

end CatalogSearch
