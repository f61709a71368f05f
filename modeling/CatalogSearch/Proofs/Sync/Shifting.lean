import CatalogSearch.Proofs.Rehearsal.Edited
import CatalogSearch.Proofs.Sync.Resume

/-!
# Full syncs of a store that is edited meanwhile

The pages of a full sync are counted once and then read one after the other, each at its offset in
the store of that moment. A record whose place shifts between two readings can thus be on a page
that was read before it came there, and never be read. A record that stays in the store is synced
exactly if one of the pages is read while the record stands on it.
-/
namespace CatalogSearch

namespace Store.Memory

variable {m : Memory} {r : Record}

/-- The number of records before an id, which is the place of the record with that id. -/
def rank (m : Memory) (id : String) : Nat := m.all.countP fun r => r.id < id

theorem Sound.rank_of_split (h : m.Sound) {before rest : List Record}
    (all : m.all = before ++ r :: rest) : m.rank r.id = before.length := by
  have ascend := h.ids_ascend
  rw [all, List.pairwise_append, List.pairwise_cons] at ascend
  obtain ⟨-, ⟨above, -⟩, below⟩ := ascend
  have less : before.countP (fun s => s.id < r.id) = before.length :=
    List.countP_eq_length.2 fun s mem => decide_eq_true (below s mem r List.mem_cons_self)
  have nothing : (r :: rest).countP (fun s => s.id < r.id) = 0 := by
    refine List.countP_eq_zero.2 fun s mem smaller => ?_
    rcases List.mem_cons.1 mem with rfl | later
    · exact String.lt_irrefl _ (of_decide_eq_true smaller)
    · exact String.lt_asymm (above s later) (of_decide_eq_true smaller)
  rw [rank, all, List.countP_append, less, nothing, Nat.add_zero]

/-- A record stands where its rank says, and nowhere else. -/
theorem Sound.rank_eq_iff (h : m.Sound) (mem : r ∈ m.all) {i : Nat} :
    m.rank r.id = i ↔ m.all[i]? = some r := by
  constructor
  · rintro rfl
    obtain ⟨before, rest, all⟩ := List.append_of_mem mem
    rw [h.rank_of_split all, all, List.getElem?_append_right (Nat.le_refl _), Nat.sub_self]
    rfl
  · intro found
    obtain ⟨inside, rfl⟩ := List.getElem?_eq_some_iff.1 found
    have split : m.all = m.all.take i ++ m.all[i] :: m.all.drop (i + 1) := by
      rw [← List.drop_eq_getElem_cons inside, List.take_append_drop]
    rw [h.rank_of_split split, List.length_take_of_le (Nat.le_of_lt inside)]

/-- A record is on a page exactly if its rank is. -/
theorem Sound.mem_page_iff (h : m.Sound) (mem : r ∈ m.all) (k size : Nat) :
    r ∈ m.pages (k + 1) size 1 ↔ k * size ≤ m.rank r.id ∧ m.rank r.id < (k + 1) * size := by
  rw [pages, Nat.add_sub_cancel, Nat.one_mul, Nat.succ_mul]
  constructor
  · intro paged
    obtain ⟨i, found⟩ := List.mem_iff_getElem?.1 paged
    rw [List.getElem?_take] at found
    split at found
    · next small =>
      rw [List.getElem?_drop] at found
      rw [(h.rank_eq_iff mem).2 found]
      omega
    · cases found
  · rintro ⟨begun, small⟩
    refine List.mem_iff_getElem?.2 ⟨m.rank r.id - k * size, ?_⟩
    rw [List.getElem?_take, if_pos (by omega), List.getElem?_drop, Nat.add_sub_cancel' begun]
    exact (h.rank_eq_iff mem).1 rfl

end Store.Memory

namespace Sync

open Index (Client Memory)
open Rehearsal (Journal Stage calm edited ends_requested ends_asked run_edited shifting)

variable {store : Store.Memory} {edits : Nat → List Store.Edit} {perPage : Nat} {r : Record}

/-- One of the first pages is read while a record stands on it. -/
def Caught (store : Store.Memory) (edits : Nat → List Store.Edit) (perPage pages : Nat)
    (r : Record) : Prop :=
  ∃ k < pages, k * perPage ≤ (store.after edits (k + 1)).rank r.id ∧
    (store.after edits (k + 1)).rank r.id < (k + 1) * perPage

instance (pages : Nat) : Decidable (Caught store edits perPage pages r) :=
  inferInstanceAs (Decidable (∃ k < pages, _))

theorem Caught.succ_iff {pages : Nat} :
    Caught store edits perPage (pages + 1) r ↔
      pages * perPage ≤ (store.after edits (pages + 1)).rank r.id ∧
        (store.after edits (pages + 1)).rank r.id < (pages + 1) * perPage ∨
      Caught store edits perPage pages r := by
  constructor
  · rintro ⟨k, within, caught⟩
    rcases Nat.lt_succ_iff_lt_or_eq.1 within with earlier | rfl
    · exact .inr ⟨k, earlier, caught⟩
    · exact .inl caught
  · rintro (caught | ⟨k, within, caught⟩)
    · exact ⟨pages, Nat.lt_succ_self pages, caught⟩
    · exact ⟨k, Nat.lt_succ_of_lt within, caught⟩

/-- Between two readings, a record falls back from a page that is still to be read to one that was
read. -/
def FallsBack (store : Store.Memory) (edits : Nat → List Store.Edit) (perPage pages : Nat)
    (r : Record) : Prop :=
  ∃ k, 1 ≤ k ∧ k < pages ∧ (store.after edits (k + 1)).rank r.id < k * perPage ∧
    k * perPage ≤ (store.after edits k).rank r.id

/-- A record that stands on one of the pages when the last of them is read was caught or has fallen
back. -/
theorem caught_or_fallsBack {pages : Nat}
    (inside : (store.after edits pages).rank r.id < pages * perPage) :
    Caught store edits perPage pages r ∨ FallsBack store edits perPage pages r := by
  induction pages with
  | zero => omega
  | succ pages ih =>
    by_cases reached : pages * perPage ≤ (store.after edits (pages + 1)).rank r.id
    · exact .inl (Caught.succ_iff.2 (.inl ⟨reached, inside⟩))
    · -- It stands on a page that was read before: it did so then already, or it fell back just now.
      by_cases before : (store.after edits pages).rank r.id < pages * perPage
      · rcases ih before with caught | ⟨k, first, within, fallen⟩
        · exact .inl (Caught.succ_iff.2 (.inr caught))
        · exact .inr ⟨k, first, Nat.lt_succ_of_lt within, fallen⟩
      · have first : 1 ≤ pages := by
          refine Nat.one_le_iff_ne_zero.2 fun zero => ?_
          subst zero
          omega
        exact .inr ⟨pages, first, Nat.lt_succ_self pages, by omega, by omega⟩

/-- What is known in a run beside edits when so many pages are read: a record that was in the store
at every question is in the index exactly if one of the pages brought it. -/
structure Brought (store : Store.Memory) (edits : Nat → List Store.Edit) (perPage n k : Nat)
    (w : Nat × Memory) : Prop where
  counted : n = store.records.length
  asked : w.1 = k + 1
  «exists» : w.2.mapping.isSome = true
  accepting : w.2.Accepting
  found_iff : ∀ r, (∀ j ≤ k, r ∈ (store.after edits j).all) →
    (Keyed.find? r.id w.2.documents = some (Document.ofRecord r) ↔
      Caught store edits perPage k r)

/-- The index exists and takes every document, and no question was asked yet. -/
structure Prepared (w : Nat × Memory) : Prop where
  asked : w.1 = 0
  «exists» : w.2.mapping.isSome = true
  accepting : w.2.Accepting

theorem still_shifting : Still (shifting store edits) where
  log _ _ _ _ step := step
  pause _ _ _ _ step := step
  report _ _ _ _ step := step

/-- An index that is asked to exist does. -/
theorem ensureSchema_prepared {w : Nat × Memory} (unasked : w.1 = 0) (accepting : w.2.Accepting) :
    Client.ensureSchema.Ends (shifting store edits) w (fun _ => Prepared) fun _ _ => False := by
  refine Client.ensureSchema_rule (fun w' => w' = w ∧ w.2.mapping = none)
    (still_shifting.idle _) ((ends_requested rfl).mono ?_ fun _ _ h => h) ?_
  · rintro found w' ⟨rfl, rfl⟩
    cases mapping : w.2.mapping with
    | none => exact ⟨rfl, rfl⟩
    | some mapping => exact ⟨unasked, by rw [mapping]; rfl, accepting⟩
  · rintro _ ⟨rfl, absent⟩
    refine (ends_requested (Memory.answer_create absent)).mono ?_ fun _ _ h => h
    rintro _ w' ⟨-, rfl⟩
    exact ⟨unasked, rfl, accepting.congr rfl rfl⟩

/-- A page is read from the store of the moment and written as a whole. -/
theorem page_brought (client : Client) (hstore : store.Sound)
    (fits : store.records.length ≤ Store.wordLimit) (paged : 1 ≤ perPage) {n k : Nat}
    {w : Nat × Memory} (within : k < pageCount n perPage)
    (h : Brought store edits perPage n k w) :
    (syncPage client (k + 1) perPage).Ends (shifting store edits) w
      (fun _ => Brought store edits perPage n (k + 1)) fun _ _ => False := by
  have offset : k * perPage < n := lt_of_lt_pageCount paged within
  have sound := hstore.after edits (k + 1)
  have written : Brought store edits perPage n (k + 1) (w.1 + 1, w.2.holding
      (((store.after edits (k + 1)).pages (k + 1) perPage 1).map Document.ofRecord)) := by
    refine ⟨h.counted, congrArg (· + 1) h.asked, h.exists, h.accepting.congr rfl rfl, ?_⟩
    intro r stays
    have mem := stays (k + 1) (Nat.le_refl _)
    have own : ∀ s ∈ (store.after edits (k + 1)).pages (k + 1) perPage 1, s.id = r.id → s = r :=
      fun s inside same =>
        sound.eq_of_id mem ((Store.Memory.pages_sublist _ _ _ _).subset inside) same
    rw [find?_holding_records_iff own, Caught.succ_iff, sound.mem_page_iff mem,
      h.found_iff r fun j earlier => stays j (Nat.le_succ_of_le earlier)]
  have answers : (store.after edits w.1).answer (.page (k + 1) perPage) =
      .ok ((store.after edits (k + 1)).pages (k + 1) perPage 1) := by
    rw [h.asked]
    refine Store.Memory.answer_page_of_le ?_
    rw [Nat.add_sub_cancel]
    exact Nat.le_trans (Nat.le_of_lt (h.counted ▸ offset)) fits
  unfold syncPage
  refine (ends_asked answers).withContext.bind ?_ fun _ _ h => h
  rintro records w' ⟨rfl, rfl⟩
  refine client.upsertBatch_ends_of_taken (fun _ => ?_) fun empty => ?_
  · refine (ends_requested (w := (w.1 + 1, w.2)) (h.accepting.answer_bulk h.exists _)).mono ?_
      fun _ _ h => h
    rintro outcomes w' ⟨rfl, rfl⟩
    exact ⟨rfl, written⟩
  · rw [empty] at written
    exact written

/-- A request that leaves the documents alone changes nothing of what is known. -/
theorem Brought.of_documents {n k : Nat} {w : Nat × Memory} {m : Memory}
    (h : Brought store edits perPage n k w) («exists» : m.mapping.isSome = true)
    (accepting : m.Accepting) (same : m.documents = w.2.documents) :
    Brought store edits perPage n k (w.1, m) :=
  ⟨h.counted, h.asked, «exists», accepting, same ▸ h.found_iff⟩

theorem milestones_shifting (client : Client) (hstore : store.Sound)
    (fits : store.records.length ≤ Store.wordLimit) (paged : 1 ≤ perPage) :
    Milestones (shifting store edits) client perPage (fun _ => False) (fun _ => False)
      (fun w => w.1 = 0 ∧ w.2.Accepting) Prepared (fun w => Prepared w ∧ w.2.documents = [])
      (Brought store edits perPage) where
  toStill := still_shifting
  context _ _ h := h
  count w h := by
    have kept : (w.2.answer .count).2 = w.2 := by
      simp only [Memory.answer, Memory.ifExists]
      split <;> rfl
    rintro answer w' ⟨rfl, rfl⟩
    rw [kept]
    cases outcome : (w.2.answer .count).1 with
    | ok n => exact h
    | error f =>
      refine ⟨.inl ?_, h⟩
      simp only [Memory.answer, Memory.ifExists] at outcome
      split at outcome <;> cases outcome
      rfl
  ensure w h := (ensureSchema_prepared h.1 h.2).mono (fun _ _ h => h) fun _ _ h => h.elim
  deleteAll w h := by
    have answers : w.2.answer .deleteAll =
        (.ok w.2.documents.length, { w.2 with documents := [] }) :=
      Memory.ifExists_of_isSome h.exists _ _
    refine (ends_requested answers).mono ?_ fun _ _ h => h.elim
    rintro _ w' ⟨-, rfl⟩
    exact ⟨⟨h.asked, h.exists, h.accepting.congr rfl rfl⟩, rfl⟩
  countAll w h := by
    refine (ends_asked rfl).mono ?_ fun _ _ h => h
    rintro n w' ⟨rfl, rfl⟩
    obtain ⟨prepared, empty⟩ := h
    refine ⟨by rw [prepared.asked]; rfl, congrArg (· + 1) prepared.asked, prepared.exists,
      prepared.accepting, fun r _ => ?_⟩
    rw [empty]
    refine iff_of_false (by rintro ⟨⟩) ?_
    rintro ⟨k, before, -⟩
    exact Nat.not_lt_zero k before
  page n k w within h := (page_brought client hstore fits paged within h).mono (fun _ _ h => h)
    fun _ _ h => h.elim
  refresh n w h := by
    have answers : w.2.answer .refresh = (.ok (), { w.2 with refreshes := w.2.refreshes + 1 }) :=
      Memory.ifExists_of_isSome h.exists _ _
    refine (ends_requested answers).mono ?_ fun _ _ h => h.elim
    rintro _ w' ⟨-, rfl⟩
    exact h.of_documents h.exists (h.accepting.congr rfl rfl) rfl
  recount n w h := by
    have answers : w.2.answer .count = (.ok w.2.documents.length, w.2) :=
      Memory.ifExists_of_isSome h.exists _ _
    refine (ends_requested answers).mono ?_ fun _ _ h => h.elim
    rintro _ w' ⟨-, rfl⟩
    exact h

/-- A full sync without faults beside which the store is edited succeeds. A record that stays in
the store is in the index exactly if one of the pages that were counted at the start was read while
the record stood on it. It is missed only if it falls back behind a page that is already read, or
stands behind all pages when the last of them is read. -/
theorem fullSync_shifting (client : Client) (options : SyncOptions) {index : Memory}
    (edits : Nat → List Store.Edit) (journal : Journal) (paged : 1 ≤ perPage)
    (hstore : store.Sound) (fits : store.records.length ≤ Store.wordLimit)
    (accepting : index.Accepting) :
    ∃ pages report after journal',
      pages = pageCount store.records.length perPage ∧
      (fullSync client options 1 perPage false).attempt.run (edited edits)
        (0, calm store index journal) =
          (.ok report, pages + 1, calm (store.after edits (pages + 1)) after journal') ∧
      ∀ r, (∀ n ≤ pages, r ∈ (store.after edits n).all) →
        (Keyed.find? r.id after.documents = some (Document.ofRecord r) ↔
          Caught store edits perPage pages r) ∧
        (Keyed.find? r.id after.documents ≠ some (Document.ofRecord r) →
          FallsBack store edits perPage pages r ∨
          pages * perPage ≤ (store.after edits pages).rank r.id) := by
  have ends : (fullSync client options 1 perPage false).Ends (shifting store edits) (0, index)
      (fun _ w' => ∃ n, Brought store edits perPage n (pageCount n perPage) w')
      fun _ _ => False := by
    refine ((milestones_shifting client hstore fits paged).fullSync_ends options paged
      ⟨rfl, accepting⟩).mono (fun _ _ h => h) ?_
    rintro f w' (failed | ⟨_, _, _, _, _, failed, _⟩)
    · exact failed
    · exact failed
  obtain ⟨report, asked, after, journal', run, n, brought⟩ := run_edited journal ends
  obtain rfl := brought.counted
  obtain rfl : asked = _ := brought.asked
  refine ⟨_, report, after, journal', rfl, run, fun r stays => ?_⟩
  have found := brought.found_iff r stays
  refine ⟨found, fun missed => ?_⟩
  by_contra neither
  obtain ⟨kept, inside⟩ := not_or.1 neither
  exact missed (found.2 ((caught_or_fallsBack (Nat.lt_of_not_le inside)).resolve_right kept))

/-- The edits by which a record is removed after a question. -/
def removing (question : Nat) (id : String) (n : Nat) : List Store.Edit :=
  if n = question then [.remove id] else []

/-- Of three records on a page each, the first is removed when its page is read. The second one
falls back and is missed, and the last one is read on the second page. -/
theorem fullSync_shifting_removed :
    ∃ r s report after journal,
      r.id = "b" ∧ s.id = "c" ∧
      (fullSync {} {} 1 1 false).attempt.run (edited (removing 1 "a"))
        (0, calm (.ofIds ["a", "b", "c"]) {} {}) =
          (.ok report, 4, calm (.ofIds ["b", "c"]) after journal) ∧
      Keyed.find? r.id after.documents ≠ some (Document.ofRecord r) ∧
      Keyed.find? s.id after.documents = some (Document.ofRecord s) := by
  obtain ⟨pages, report, after, journal, counted, run, about⟩ :=
    fullSync_shifting {} {} (removing 1 "a") {} (Nat.le_refl 1)
      (Store.Memory.sound_ofIds ["a", "b", "c"]) (by decide +kernel)
      (fun _ => rfl : Memory.Accepting {})
  obtain rfl : pages = 3 := counted
  refine ⟨{ (default : Record) with id := "b" }, { (default : Record) with id := "c" }, report,
    after, journal, rfl, rfl, run, ?_, ?_⟩
  · refine fun found => absurd ((about _ fun n bound => ?_).1.1 found) (by decide +kernel)
    match n, bound with
    | 0, _ | 1, _ => exact .tail _ (.head _)
    | 2, _ | 3, _ => exact .head _
  · refine (about _ fun n bound => ?_).1.2 (by decide +kernel)
    match n, bound with
    | 0, _ | 1, _ => exact .tail _ (.tail _ (.head _))
    | 2, _ | 3, _ => exact .tail _ (.head _)

/-- The first of two records is removed when its page is read. The second one is in the store all
the time and is missed. -/
theorem fullSync_shifting_misses :
    ∃ r report after journal,
      (∀ n ≤ 3, r ∈ ((Store.Memory.ofIds ["a", "b"]).after (removing 1 "a") n).all) ∧
      (fullSync {} {} 1 1 false).attempt.run (edited (removing 1 "a"))
        (0, calm (.ofIds ["a", "b"]) {} {}) =
          (.ok report, 3, calm (.ofIds ["b"]) after journal) ∧
      Keyed.find? r.id after.documents = none := by
  refine ⟨{ (default : Record) with id := "b" }, _, _, _, fun n bound => ?_, rfl, ?_⟩
  · match n, bound with
    | 0, _ | 1, _ => exact .tail _ (.head _)
    | 2, _ | 3, _ => exact .head _
  · rfl

end Sync

end CatalogSearch
