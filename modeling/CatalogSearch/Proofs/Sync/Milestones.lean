import CatalogSearch.Proofs.Index.Accepting
import CatalogSearch.Sync

/-!
# The milestones of a full sync

A full sync from the first page on goes from one milestone to the next: the index exists, it is
empty, the records are counted, one page after the other is written. What is known at a milestone
and how its step may fail is left open, so that one account serves faults that strike a run as well
as a store that changes under it.
-/
namespace CatalogSearch.Sync

open Index (Client)

variable {ω : Type} {sem : Semantics ω}

/-- Notes, pauses and progress change nothing at all. -/
structure Still (sem : Semantics ω) : Prop where
  log : ∀ entry w answer w', sem (.log entry) w answer w' → w' = w
  pause : ∀ span w answer w', sem (.pause span) w answer w' → w' = w
  report : ∀ event w answer w', sem (.report event) w answer w' → w' = w

theorem Still.idle (still : Still sem) (inv : ω → Prop) : Idle sem inv where
  log entry w answer w' step h := still.log entry w answer w' step ▸ h
  pause span w answer w' step h := still.pause span w answer w' step ▸ h

theorem Still.report_ends (still : Still sem) {inv : ω → Prop} {event : Progress} {w : ω}
    (hw : inv w) : (Job.report event).Ends sem w fun _ => inv :=
  fun answer w' step => still.report event w answer w' step ▸ hw

/-- What is known at the milestones of a run: at its start, when the index exists, when it is empty,
and when so many pages of a store with so many records are done. A step fails as `raw` says and a
page as `spoilt` says; then the last milestone still stands. -/
structure Milestones (sem : Semantics ω) (client : Client) (perPage : Nat)
    (raw spoilt : Failure → Prop) (start existing emptied : ω → Prop)
    (done : Nat → Nat → ω → Prop) : Prop extends Still sem where
  context : ∀ text f, raw f → raw (.context text f)
  count : ∀ w, start w → (Task.index .count).Ends sem w (fun _ => start)
    fun f w' => (f.isNotFound = true ∨ raw f) ∧ start w'
  ensure : ∀ w, start w → Client.ensureSchema.Ends sem w (fun _ => existing)
    fun f w' => raw f ∧ start w'
  deleteAll : ∀ w, existing w → (Task.index .deleteAll).Ends sem w (fun _ => emptied)
    fun f w' => raw f ∧ existing w'
  countAll : ∀ w, emptied w → (Task.store .countAll).Ends sem w (fun n => done n 0)
    fun f _ => raw f
  page : ∀ n k w, k < pageCount n perPage → done n k w →
    (syncPage client (k + 1) perPage).Ends sem w (fun _ => done n (k + 1))
      fun f w' => spoilt f ∧ done n k w'
  refresh : ∀ n w, done n (pageCount n perPage) w → (Task.index .refresh).Ends sem w
    (fun _ => done n (pageCount n perPage)) fun f w' => raw f ∧ done n (pageCount n perPage) w'
  recount : ∀ n w, done n (pageCount n perPage) w → (Task.index .count).Ends sem w
    (fun _ => done n (pageCount n perPage)) fun f w' => raw f ∧ done n (pageCount n perPage) w'

/-- A run that stops between two milestones: a step has failed, or a page is given up and the pages
before it are done. -/
def Stopped (perPage : Nat) (raw spoilt : Failure → Prop) (done : Nat → Nat → ω → Prop)
    (f : Failure) (w : ω) : Prop :=
  raw f ∨ ∃ n k given, k < pageCount n perPage ∧ f = pageFailure (k + 1) given ∧
    spoilt given.failure ∧ done n k w

namespace Milestones

variable {client : Client} {perPage : Nat} {raw spoilt : Failure → Prop}
  {start existing emptied : ω → Prop} {done : Nat → Nat → ω → Prop} {w : ω}

/-- A failure with a context is still one of the failures of a step. -/
theorem withContext_ends
    (m : Milestones sem client perPage raw spoilt start existing emptied done) {α : Type}
    {task : Task α} {good : α → ω → Prop} (text : String)
    (h : task.Ends sem w good fun f _ => raw f) :
    (task.withContext text).Ends sem w good fun f _ => raw f := by
  refine Job.ends_bind.2 (Job.Ends.mono h fun outcome w' h => ?_)
  cases outcome with
  | ok a => exact h
  | error f => exact m.context text f h

/-- The client's own retries come to a milestone or leave the one before. -/
theorem withTimeoutRetry_ends
    (m : Milestones sem client perPage raw spoilt start existing emptied done) {α : Type}
    {task : Task α} {good : α → ω → Prop} {inv : ω → Prop} {bad : Failure → Prop} (name : String)
    (each : ∀ w, inv w → task.Ends sem w good fun f w' => bad f ∧ inv w') (hw : inv w) :
    (client.withTimeoutRetry name task).Ends sem w good fun f w' => bad f ∧ inv w' :=
  Idle.withTimeoutRetry_ends (fun _ => m.idle _) client name each hw

theorem countOrZero_ends
    (m : Milestones sem client perPage raw spoilt start existing emptied done) (hw : start w) :
    (countOrZero client).Ends sem w (fun _ => start) fun f _ => raw f := by
  unfold countOrZero
  refine Task.ends_bind.2 (Task.ends_always.2 ?_)
  refine (m.withTimeoutRetry_ends "count" m.count hw).attempt (fun n w' h => h) fun f w' h => ?_
  dsimp only
  split
  · exact h.2
  · next present => exact h.1.resolve_left present

theorem empty_ends
    (m : Milestones sem client perPage raw spoilt start existing emptied done) (hw : start w) :
    (empty client).Ends sem w (fun _ => emptied) fun f _ => raw f := by
  have each (w : ω) (hw : existing w) : Client.deleteAllDocuments.Ends sem w (fun _ => emptied)
      fun f w' => raw f ∧ existing w' := by
    unfold Client.deleteAllDocuments
    refine (m.deleteAll w hw).bind (fun deleted w' h => ?_) fun _ _ h => h
    exact ((m.idle _).log_ends h).always_bind fun _ _ h => h
  unfold empty
  refine ((m.idle _).log_ends hw).always_bind fun _ w' hw => ?_
  refine (m.withContext_ends _ ((m.withTimeoutRetry_ends "ensure_schema" m.ensure hw).mono
    (fun _ _ h => h) fun _ _ h => h.1)).bind (fun _ w' hw => ?_) fun _ _ h => h
  exact (m.withContext_ends _ ((m.withTimeoutRetry_ends "delete_all" each hw).mono
    (fun _ _ h => h) fun _ _ h => h.1)).bind (fun _ _ h => h) fun _ _ h => h

/-- All pages are done, or one is given up after the pages before it. -/
theorem syncPages_ends
    (m : Milestones sem client perPage raw spoilt start existing emptied done)
    (options : SyncOptions) (totalPages : Nat) {n : Nat} (count : Nat) {k : Nat}
    (total : k + count = pageCount n perPage) (totals : Totals) (hw : done n k w) :
    (syncPages client options perPage totalPages count (k + 1) totals).Ends sem w
      (fun _ => done n (pageCount n perPage)) (Stopped perPage raw spoilt done) := by
  induction count generalizing k totals w with
  | zero =>
    rw [← total]
    exact hw
  | succ count ih =>
    have within : k < pageCount n perPage := by omega
    unfold syncPages
    refine ((Idle.retry_ends (fun _ => m.idle _) _ _ (fun w hw => m.page n k w within hw)
      hw).always_bind ?_)
    intro outcome w' h
    cases outcome with
    | error given =>
      exact ((m.idle (done n k)).log_ends h.2).always_bind fun _ w'' h' =>
        .inr ⟨n, k, given, within, rfl, h.1, h'⟩
    | ok summary => exact (m.report_ends h).always_bind fun _ w'' hw => ih (by omega) _ hw

/-- A full sync from the first page on passes all milestones or stops between two of them. -/
theorem fullSync_ends
    (m : Milestones sem client perPage raw spoilt start existing emptied done)
    (options : SyncOptions) (some : 1 ≤ perPage) (hw : start w) :
    (fullSync client options 1 perPage false).Ends sem w
      (fun _ w' => ∃ n, done n (pageCount n perPage) w') (Stopped perPage raw spoilt done) := by
  unfold fullSync
  rw [if_neg (by omega)]
  dsimp only
  refine ((m.idle _).log_ends hw).always_bind fun _ w hw => ?_
  refine (m.countOrZero_ends hw).bind (fun before w hw => ?_) fun _ _ h => .inl h
  rw [if_neg Bool.false_ne_true]
  refine (m.empty_ends hw).bind (fun _ w hw => ?_) fun _ _ h => .inl h
  refine (m.withContext_ends _ (m.countAll w hw)).bind (fun n w hw => ?_) fun _ _ h => .inl h
  refine (m.report_ends hw).always_bind fun _ w hw => ?_
  refine ((m.idle _).log_ends hw).always_bind fun _ w hw => ?_
  have pages : 0 + (pageCount n perPage + 1 - max 1 1) = pageCount n perPage := by omega
  refine (m.syncPages_ends options _ _ pages {} hw).bind (fun totals w hw => ?_) fun _ _ h => h
  refine ((m.idle _).log_ends hw).always_bind fun _ w hw => ?_
  refine (m.withContext_ends _ ((m.withTimeoutRetry_ends "refresh" (m.refresh n) hw).mono
    (fun _ _ h => h) fun _ _ h => h.1)).bind (fun _ w hw => ?_) fun _ _ h => .inl h
  refine (m.withTimeoutRetry_ends "count" (m.recount n) hw).bind (fun after w hw => ?_)
    fun _ _ h => .inl h.1
  refine ((m.idle _).log_ends hw).always_bind fun _ w hw => ?_
  exact ((m.idle _).log_ends hw).always_bind fun _ w hw => ⟨n, hw⟩

end Milestones

/-- A page written to an index that takes every document adds its records to those that are there,
as long as no other record has the id of one of them. -/
theorem find?_holding_records_iff {m : Index.Memory} {records : List Record} {r : Record}
    (own : ∀ s ∈ records, s.id = r.id → s = r) :
    Keyed.find? r.id (m.holding (records.map Document.ofRecord)).documents =
        some (Document.ofRecord r) ↔
      r ∈ records ∨ Keyed.find? r.id m.documents = some (Document.ofRecord r) := by
  rcases Index.Memory.find?_holding m (records.map Document.ofRecord) r.id with
    ⟨absent, same⟩ | ⟨d, mem, key, found⟩
  · have elsewhere : r ∉ records := fun mem =>
      absent (List.mem_map.2 ⟨_, List.mem_map_of_mem mem, rfl⟩)
    rw [same, or_iff_right elsewhere]
  · obtain ⟨s, inside, rfl⟩ := List.mem_map.1 mem
    obtain rfl := own s inside key
    exact iff_of_true found (.inl inside)

end CatalogSearch.Sync
