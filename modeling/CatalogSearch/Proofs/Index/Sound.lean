import CatalogSearch.Index.Memory
import CatalogSearch.Keyed.Lookup
import CatalogSearch.Proofs.Job.Scene

/-!
# Sound indexes

An index in memory keeps its documents in ascending order under their own ids, has none while it
does not exist, and rejects a document with a refusal of that document. Whatever is asked of an
index keeps it sound, and so does every job.
-/
namespace CatalogSearch.Index.Memory

/-- An index as it can come about. -/
structure Sound (m : Memory) : Prop where
  ascending : Keyed.Ascending m.documents
  keyed : ∀ e ∈ m.documents, e.2.id = e.1
  absent : m.mapping = none → m.documents = []
  refusals : ∀ e ∈ m.rejected, e.2.documentId = e.1 ∧ e.2.status = 400

variable {m : Memory}

theorem sound_initial : Sound {} := ⟨.nil, by simp, fun _ => rfl, by simp⟩

/-- An index that holds a document exists. -/
theorem Sound.isSome_of_mem (h : Sound m) {e : String × Document} (mem : e ∈ m.documents) :
    m.mapping.isSome = true := by
  cases hmapping : m.mapping with
  | some mapping => rfl
  | none =>
    rw [h.absent hmapping] at mem
    cases mem

theorem Sound.reject (h : Sound m) (id errorType reason : String) :
    Sound (m.reject id errorType reason) where
  ascending := h.ascending
  keyed := h.keyed
  absent := h.absent
  refusals e he := by
    rcases Keyed.mem_insert he with rfl | he
    · exact ⟨rfl, rfl⟩
    · exact h.refusals e he

theorem Sound.throttle (h : Sound m) (id : String) (times : Nat) : Sound (m.throttle id times) :=
  ⟨h.ascending, h.keyed, h.absent, h.refusals⟩

theorem Sound.touch (h : Sound m) : Sound m.touch :=
  ⟨h.ascending, h.keyed, fun hnone => by simp [Memory.touch] at hnone, h.refusals⟩

/-- Documents go under their own ids. -/
theorem Sound.insert (h : Sound m) (hm : m.mapping.isSome = true) (d : Document) :
    Sound { m with documents := Keyed.insert d.id d m.documents } where
  ascending := Keyed.ascending_insert d.id d h.ascending
  keyed e he := by
    rcases Keyed.mem_insert he with rfl | he
    · rfl
    · exact h.keyed e he
  absent hnone := by simp [show m.mapping = none from hnone] at hm
  refusals := h.refusals

theorem Sound.put (h : Sound m) (d : Document) : Sound (m.put d) :=
  h.touch.insert rfl d

theorem write_mapping (d : Document) (m : Memory) : (m.write d).2.mapping = m.mapping := by
  unfold write
  split
  · rfl
  · split <;> rfl

theorem Sound.write (h : Sound m) (hm : m.mapping.isSome = true) (d : Document) :
    Sound (m.write d).2 := by
  unfold Memory.write
  split
  · exact h
  · split
    · exact ⟨h.ascending, h.keyed, h.absent, h.refusals⟩
    · exact h.insert hm d

theorem Sound.writeAll (documents : List Document) (h : Sound m)
    (hm : m.mapping.isSome = true) : Sound (writeAll documents m).2 := by
  induction documents generalizing m with
  | nil => exact h
  | cons d rest ih =>
    have hmapping : (m.write d).2.mapping.isSome = true := by
      rw [write_mapping]
      exact hm
    exact ih (h.write hm d) hmapping

theorem Sound.ifExists {α : Type} {answer : α} {after : Memory} (h : Sound m)
    (hafter : m.mapping.isSome = true → Sound after) : Sound (m.ifExists answer after).2 := by
  unfold Memory.ifExists
  split
  · next hm => exact hafter (by rw [hm]; rfl)
  · exact h

/-- An index stays sound whatever is asked of it. -/
theorem Sound.answer (h : Sound m) (call : Call) : Sound (m.answer call).2 := by
  cases call with
  | «exists» => exact h
  | create mapping =>
    simp only [Memory.answer]
    split
    · exact h
    · exact ⟨h.ascending, h.keyed, fun hnone => by simp at hnone, h.refusals⟩
  | drop => exact h.ifExists fun _ => ⟨.nil, by simp, fun _ => rfl, h.refusals⟩
  | mapping =>
    simp only [Memory.answer]
    split <;> exact h
  | bulk documents => exact h.touch.writeAll documents rfl
  | deleteAll => exact h.ifExists fun _ => ⟨.nil, by simp, fun _ => rfl, h.refusals⟩
  | deleteDocument id =>
    simp only [Memory.answer]
    split
    · refine ⟨Keyed.ascending_erase id h.ascending, fun e he => ?_, fun hnone => ?_, h.refusals⟩
      · exact h.keyed e ((Keyed.erase_sublist id m.documents).subset he)
      · simp [h.absent hnone, Keyed.erase]
    · exact h
  | search request => exact h.ifExists fun _ => h
  | keywordTerms size minCount => exact h.ifExists fun _ => h
  | scanFreshness => exact h.ifExists fun _ => h
  | refresh => exact h.ifExists fun _ => ⟨h.ascending, h.keyed, h.absent, h.refusals⟩
  | count => exact h.ifExists fun _ => h

/-- The refusal of a rejected document is its own. -/
theorem Sound.refusal_of_find? (h : Sound m) {key : String} {error : ItemError}
    (hfound : Keyed.find? key m.rejected = some error) :
    error.documentId = key ∧ error.status = 400 :=
  h.refusals _ (Keyed.mem_of_find? hfound)

end Index.Memory

variable {store : Store.Memory} {faulty : Prop}

/-- Every step of a job keeps the index sound. -/
theorem inMemory_sound (effect : Effect) (w : Scene) (answer : effect.Answer) (w' : Scene)
    (step : inMemory store faulty effect w answer w') (h : w.index.Sound) : w'.index.Sound := by
  cases effect with
  | store call =>
    obtain ⟨rfl, -⟩ := step
    exact h
  | index call =>
    rcases step with ⟨-, rfl⟩ | ⟨-, rfl | rfl⟩
    · exact h.answer call
    · exact h
    · exact h.answer call
  | pause span => exact step ▸ h
  | report event => exact step ▸ h
  | log entry => exact step ▸ h

/-- However a task ends, it ends with a sound index. -/
theorem Task.Ends.sound {α : Type} {task : Task α} {w : Scene} {good : α → Scene → Prop}
    {bad : Failure → Scene → Prop} (hw : w.index.Sound)
    (h : task.Ends (inMemory store faulty) w good bad) :
    task.Ends (inMemory store faulty) w (fun a w' => good a w' ∧ w'.index.Sound)
      fun f w' => bad f w' ∧ w'.index.Sound :=
  (Job.Ends.keeps inMemory_sound hw h).mono fun outcome _ h => by
    cases outcome with
    | ok a => exact h
    | error f => exact h

end CatalogSearch
