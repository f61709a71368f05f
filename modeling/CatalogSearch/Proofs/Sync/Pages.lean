import CatalogSearch.Proofs.Index.Upsert
import CatalogSearch.Proofs.Store.Pages
import Mathlib.Algebra.Ring.Nat

/-!
# The page loop

One page writes the documents of its records. However often it is tried, and whatever an attempt
that failed has left in the index, the attempt that succeeds leaves every document of the page
there or refused once. Pages in a row add up to one write of all their records.
-/
namespace CatalogSearch

open Index (BulkSummary Client Wrote)
open Index.Memory (Tried)

variable {store : Store.Memory} {faulty : Prop} {w : Scene}

namespace Sync

def pageDocuments (store : Store.Memory) (page perPage : Nat) : List Document :=
  (store.pages page perPage 1).map Document.ofRecord

/-- One attempt at a page writes its documents, or a fault strikes. -/
theorem syncPage_ends (client : Client) (hstore : store.Sound)
    (fits : store.records.length ≤ Store.wordLimit) (page perPage : Nat)
    (sound : w.index.Sound) :
    (syncPage client page perPage).Ends (inMemory store faulty) w
      (fun total w' => total.failed = total.errors.length ∧
        Wrote False (pageDocuments store page perPage) total.succeeded
          (total.errors.map (·.documentId)) w.index w'.index ∧ w'.events = w.events)
      (fun _ w' => faulty ∧ Tried (pageDocuments store page perPage) w.index w'.index ∧
        w'.events = w.events) := by
  unfold syncPage
  refine (Task.ends_store (store.answer_page fits page perPage)).withContext.bind ?_ ?_
  · intro records w' h
    obtain ⟨rfl, rfl⟩ := h
    exact client.upsertBatch_ends (hstore.distinct_documents (store.pages_sublist ..)) sound
  · intro f w' h
    obtain ⟨hfaulty, rfl⟩ := h
    exact ⟨hfaulty, .refl _ w'.index, rfl⟩

/-- A page that is tried until it succeeds writes its documents once, whatever its failed attempts
have left behind. -/
theorem retriedPage_ends (client : Client) (policy : Retry.Policy) (name : String)
    (hstore : store.Sound) (fits : store.records.length ≤ Store.wordLimit) (page perPage : Nat)
    (sound : w.index.Sound) :
    (Retry.run policy name (syncPage client page perPage)).Ends (inMemory store faulty) w fun
      | .ok total, w' => total.failed = total.errors.length ∧
        Wrote faulty (pageDocuments store page perPage) total.succeeded
          (total.errors.map (·.documentId)) w.index w'.index ∧ w'.events = w.events ∧
        w'.index.Sound
      | .error _, _ => faulty := by
  have each (w' : Scene) (h : w'.events = w.events ∧ w'.index.Sound ∧ (w'.index = w.index ∨
      faulty ∧ Tried (pageDocuments store page perPage) w.index w'.index)) :
      (syncPage client page perPage).Ends (inMemory store faulty) w'
        (fun total w'' => total.failed = total.errors.length ∧
          Wrote faulty (pageDocuments store page perPage) total.succeeded
            (total.errors.map (·.documentId)) w.index w''.index ∧ w''.events = w.events ∧
          w''.index.Sound)
        (fun _ w'' => faulty ∧ w''.events = w.events ∧ w''.index.Sound ∧
          (w''.index = w.index ∨
            faulty ∧ Tried (pageDocuments store page perPage) w.index w''.index)) := by
    obtain ⟨hevents, hsound, hleft⟩ := h
    refine ((syncPage_ends client hstore fits page perPage hsound).sound hsound).mono ?_ ?_
    · intro total w'' h
      obtain ⟨⟨hfailed, hwrote, hlast⟩, hsound''⟩ := h
      refine ⟨hfailed, ?_, hlast.trans hevents, hsound''⟩
      rcases hleft with hsame | ⟨hfaulty, htried⟩
      · rw [← hsame]
        exact hwrote.weaken
      · exact hwrote.of_tried hfaulty htried
    · intro f w'' h
      obtain ⟨⟨hfaulty, htried'', hlast⟩, hsound''⟩ := h
      refine ⟨hfaulty, hlast.trans hevents, hsound'', .inr ⟨hfaulty, ?_⟩⟩
      rcases hleft with hsame | ⟨-, htried⟩
      · rw [← hsame]
        exact htried''
      · exact htried.trans htried''
  refine (Retry.run_ends policy name each ⟨rfl, sound, .inl rfl⟩).mono fun outcome w' h => ?_
  cases outcome with
  | ok total => exact h
  | error given => exact h.1

/-- The progress of pages in a row, with how many documents of each were taken and refused. -/
def pageEvents (totalPages page : Nat) (counts : List (Nat × Nat)) : List Progress :=
  (counts.zipIdx page).map fun c => .pageIndexed c.2 totalPages c.1.1 c.1.2

/-- Pages in a row write the documents of all their records and report each page once. -/
theorem syncPages_ends (client : Client) (options : SyncOptions) (hstore : store.Sound)
    (fits : store.records.length ≤ Store.wordLimit) (perPage totalPages count : Nat) {page : Nat}
    (hpage : 1 ≤ page) (totals : Totals) (sound : w.index.Sound) :
    (syncPages client options perPage totalPages count page totals).Ends (inMemory store faulty) w
      (fun totals' w' => ∃ counts : List (Nat × Nat), ∃ errors : List ItemError,
        totals' = ⟨totals.pages + count, totals.succeeded + (counts.map (·.1)).sum,
          totals.errors ++ errors⟩ ∧
        counts.length = count ∧ (counts.map (·.2)).sum = errors.length ∧
        w'.events = w.events ++ pageEvents totalPages page counts ∧
        Wrote faulty ((store.pages page perPage count).map Document.ofRecord)
          (counts.map (·.1)).sum (errors.map (·.documentId)) w.index w'.index)
      (fun _ _ => faulty) := by
  induction count generalizing page totals w with
  | zero =>
    have hnone : (store.pages page perPage 0).map Document.ofRecord = [] := by
      simp [Store.Memory.pages]
    rw [hnone]
    exact ⟨[], [], by simp, rfl, rfl, by simp [pageEvents], .nil faulty w.index⟩
  | succ count ih =>
    unfold syncPages
    refine Task.ends_bind.2 (Task.ends_always.2
      ((retriedPage_ends client _ _ hstore fits page perPage sound).mono fun outcome w' h => ?_))
    cases outcome with
    | error given =>
      exact Task.ends_bind.2 (Task.ends_always.2 (Job.ends_log h))
    | ok total =>
      obtain ⟨hfailed, hwrote, hevents, hsound⟩ := h
      refine Task.ends_bind.2 (Task.ends_always.2 (Job.ends_report ?_))
      have hnext : (Scene.mk w'.index (w'.events ++
          [.pageIndexed page totalPages total.succeeded total.failed])).index.Sound := hsound
      refine (ih (Nat.le_add_left 1 page) _ hnext).mono ?_ fun _ _ h => h
      intro totals' w'' h
      obtain ⟨counts, errors, rfl, hcount, hrefused, hlast, hrest⟩ := h
      have hdistinct := hstore.distinct_documents (store.pages_sublist page perPage (count + 1))
      rw [store.pages_succ hpage, List.map_append, List.map_append] at hdistinct
      refine ⟨(total.succeeded, total.failed) :: counts, total.errors ++ errors, ?_, ?_, ?_, ?_, ?_⟩
      · simp [Nat.add_assoc, Nat.add_comm 1 count]
      · simp [hcount]
      · simp [hrefused, hfailed]
      · simp [hlast, hevents, pageEvents]
      · rw [store.pages_succ hpage, List.map_append, List.map_append]
        exact hwrote.append hrest fun key h h' =>
          (List.nodup_append.1 hdistinct).2.2 key h key h' rfl

end Sync

end CatalogSearch
