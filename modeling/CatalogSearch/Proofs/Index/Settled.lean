import CatalogSearch.Proofs.Index.Outcomes
import CatalogSearch.Proofs.Index.Upsert

/-!
# What submissions settle

What an index in memory holds after documents were submitted is settled by the documents alone, in
whatever rounds and in whatever company they came. Refusals are those that the index had from the
start, and all that is neither written nor waited for stays as it was.
-/
namespace CatalogSearch.Index

open Memory (Submitted)

namespace Memory

variable {m m' m₁ m₂ : Memory}

/-- The refusal of an id that is rejected, or of one that has to wait. -/
def refusal (rejected : List (String × ItemError)) (id : String) : ItemError :=
  (Keyed.find? id rejected).getD (throttleError id)

/-- A document is refused by its own name. -/
theorem write_failed {d : Document} {e : ItemError}
    (refusals : ∀ r ∈ m.rejected, r.2.documentId = r.1) (failed : (m.write d).1 = .failed e) :
    e.documentId = d.id ∧ e = refusal m.rejected e.documentId := by
  rw [write_fst] at failed
  cases rejected : Keyed.find? d.id m.rejected with
  | some error =>
    rw [rejected] at failed
    obtain rfl := ItemOutcome.failed.inj failed
    have own : error.documentId = d.id := refusals _ (Keyed.mem_of_find? rejected)
    exact ⟨own, by rw [refusal, own, rejected]; rfl⟩
  | none =>
    rw [rejected] at failed
    dsimp only at failed
    split at failed
    · cases failed
    · obtain rfl := ItemOutcome.failed.inj failed
      have own : (throttleError d.id).documentId = d.id := rfl
      exact ⟨own, by rw [refusal, own, rejected]; rfl⟩

/-- What neither writing nor deleting documents touches. -/
structure Steady (m m' : Memory) : Prop where
  rejected : m'.rejected = m.rejected
  waiting : ∀ id, Keyed.contains id m'.throttled = Keyed.contains id m.throttled
  refreshes : m'.refreshes = m.refreshes

theorem Steady.refl (m : Memory) : Steady m m := ⟨rfl, fun _ => rfl, rfl⟩

theorem Steady.trans (h : Steady m m₁) (h' : Steady m₁ m₂) : Steady m m₂ where
  rejected := h'.rejected.trans h.rejected
  waiting id := (h'.waiting id).trans (h.waiting id)
  refreshes := h'.refreshes.trans h.refreshes

theorem steady_write (m : Memory) (d : Document) : Steady m (m.write d).2 := by
  unfold write
  split
  · exact .refl m
  · split
    · next times waits =>
      refine ⟨rfl, fun id => ?_, rfl⟩
      rw [Keyed.contains, Keyed.find?_insert]
      split
      · next same => rw [Keyed.contains, ← same, waits]; rfl
      · rfl
    · exact ⟨rfl, fun _ => rfl, rfl⟩

theorem steady_writeAll (documents : List Document) (m : Memory) :
    Steady m (writeAll documents m).2 := by
  induction documents generalizing m with
  | nil => exact .refl m
  | cons d rest ih => exact (steady_write m d).trans (ih (m.write d).2)

theorem steady_bulk (documents : List Document) (m : Memory) :
    Steady m (m.answer (.bulk documents)).2 := by
  have touched : Steady m m.touch := ⟨rfl, fun _ => rfl, rfl⟩
  exact touched.trans (steady_writeAll documents m.touch)

theorem steady_delete (id : String) (m : Memory) :
    Steady m (m.answer (.deleteDocument id)).2 := by
  simp only [answer]
  split
  · exact ⟨rfl, fun _ => rfl, rfl⟩
  · exact .refl m

/-- Every document of a bulk request has its outcome, and a refused one is refused as it would have
been before any other was written. -/
theorem writeAll_named (documents : List Document)
    (refusals : ∀ r ∈ m.rejected, r.2.documentId = r.1) :
    Named documents (writeAll documents m).1 ∧
      ∀ e, .failed e ∈ (writeAll documents m).1 → e = refusal m.rejected e.documentId := by
  induction documents generalizing m with
  | nil => exact ⟨⟨rfl, by simp [writeAll]⟩, by simp [writeAll]⟩
  | cons d rest ih =>
    have same := (steady_write m d).rejected
    obtain ⟨⟨counted, named⟩, refused⟩ := ih (m := (m.write d).2) (by rwa [same])
    rw [same] at refused
    refine ⟨⟨congrArg (· + 1) counted, ?_⟩, ?_⟩
    · refine List.forall_mem_cons.2 ⟨fun e failed => ?_, named⟩
      exact (write_failed refusals failed).1
    · intro e mem
      rcases List.mem_cons.1 mem with here | later
      · exact (write_failed refusals here.symm).2
      · exact refused e later

/-- A document's wait tells what is found of it, if it ever had to wait. -/
theorem find?_throttled (m : Memory) (id : String) : Keyed.find? id m.throttled =
    if Keyed.contains id m.throttled then some (m.waits id) else none := by
  rw [Keyed.contains, waits]
  cases Keyed.find? id m.throttled <;> rfl

/-- The documents submitted settle what is written and how long the others have to wait. -/
theorem Submitted.unique {again : Nat} {documents : List Document}
    (h₁ : Submitted again documents m m₁) (h₂ : Submitted again documents m m₂) (key : String) :
    Keyed.find? key m₁.documents = Keyed.find? key m₂.documents ∧ m₁.waits key = m₂.waits key := by
  constructor
  · by_cases taken : key ∈ documents.map (·.id) ∧ m.takes again key = true
    · obtain ⟨submitted, takes⟩ := taken
      obtain ⟨d, mem, rfl⟩ := List.mem_map.1 submitted
      rw [h₁.taken d mem takes, h₂.taken d mem takes]
    · have kept : key ∈ documents.map (·.id) → m.takes again key = false := fun submitted =>
        Bool.eq_false_iff.2 fun takes => taken ⟨submitted, takes⟩
      rw [h₁.kept key kept, h₂.kept key kept]
  · by_cases waited : key ∈ documents.map (·.id) ∧ Keyed.find? key m.rejected = none
    · rw [h₁.waits_of_mem key waited.1 waited.2, h₂.waits_of_mem key waited.1 waited.2]
    · have kept : key ∈ documents.map (·.id) → Keyed.find? key m.rejected ≠ none :=
        fun submitted free => waited ⟨submitted, free⟩
      rw [h₁.waits_kept key kept, h₂.waits_kept key kept]

end Memory

theorem Memory.exists_bulk (documents : List Document) (m : Memory) :
    (m.answer (.bulk documents)).2.mapping.isSome = true := by
  have kept (m : Memory) : (writeAll documents m).2.mapping = m.mapping := by
    induction documents generalizing m with
    | nil => rfl
    | cons d rest ih => exact (ih (m.write d).2).trans (write_mapping d m)
  exact congrArg Option.isSome (kept m.touch)

/-- Once an index exists, a bulk write does not change that. -/
theorem bulky_exists (store : Store.Memory) : Bulky fun effect =>
    ∀ w answer w', inMemory store False effect w answer w' →
      w.index.mapping.isSome = true → w'.index.mapping.isSome = true where
  bulk documents w answer w' step existing := by
    obtain ⟨-, rfl⟩ := step.resolve_right fun struck => struck.1.1
    exact Memory.exists_bulk documents w.index
  note entry _ w answer w' step existing := step ▸ existing
  pause span w answer w' step existing := step ▸ existing

namespace Client

variable {store : Store.Memory} {w : Scene} {documents : List Document}

/-- A bulk write of any documents creates the index. -/
theorem upsertBatch_exists (client : Client) (documents : List Document) :
    (client.upsertBatch documents).Ends (inMemory store False) w
      (fun _ w' =>
        (w'.index.mapping.isSome = true ↔ w.index.mapping.isSome = true ∨ documents ≠ []))
      fun _ _ => True := by
  cases documents with
  | nil => exact (or_iff_left (not_not.2 rfl)).symm
  | cons d rest =>
    have confined := (bulky_exists store).upsertBatch client (d :: rest)
    intro answer w₁ step
    obtain ⟨-, rfl⟩ := step.resolve_right fun struck => struck.1.1
    refine ((confined.2 answer).ends (fun effect w answer w' keeps step => keeps w answer w' step)
      (Memory.exists_bulk (d :: rest) w.index)).mono fun outcome _ existing => ?_
    cases outcome with
    | ok total => exact iff_of_true existing (.inr nofun)
    | error f => trivial

/-- A bulk write submits its documents and refuses those that are never taken. -/
theorem upsertBatch_submits (client : Client) (distinct : (documents.map (·.id)).Nodup)
    (sound : w.index.Sound) :
    (client.upsertBatch documents).Ends (inMemory store False) w
      (fun total w' => Counts maxResubmissions documents w.index total.succeeded total.errors ∧
        Submitted maxResubmissions documents w.index w'.index ∧
        (w'.index.mapping.isSome = true ↔ w.index.mapping.isSome = true ∨ documents ≠ []))
      fun _ _ => False := by
  have bulking : Bulking (inMemory store False) Scene.index False fun w' =>
      w'.events = w.events ∧ w'.index.Sound := bulking_inMemory w.events
  refine ((bulking.upsertRounds_ends client {} maxResubmissions distinct ⟨rfl, sound⟩).and
    (upsertBatch_exists client documents)).mono ?_ fun _ _ h => h.1.1
  rintro total w' ⟨⟨succeeded, errors, rfl, counts, submitted, -⟩, existing⟩
  exact ⟨by simpa [BulkSummary.add] using counts, submitted, existing⟩

end Client

end CatalogSearch.Index
