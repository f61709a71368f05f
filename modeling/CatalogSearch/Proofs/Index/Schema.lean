import CatalogSearch.Proofs.Index.Sound
import CatalogSearch.Proofs.Index.Writing

/-!
# Schema management

What creating, emptying and counting an index comes to, also where an earlier attempt was struck by
a fault after it took effect. Refusals and waits stay as they are throughout.
-/
namespace CatalogSearch

/-- Two scenes that differ at most in the mapping, the documents and the refreshes. -/
structure Scene.Alike (w w' : Scene) : Prop where
  rejected : w'.index.rejected = w.index.rejected
  throttled : w'.index.throttled = w.index.throttled
  events : w'.events = w.events

theorem Scene.Alike.refl (w : Scene) : w.Alike w := ⟨rfl, rfl, rfl⟩

theorem Scene.Alike.trans {w w' w'' : Scene} (h : w.Alike w') (h' : w'.Alike w'') : w.Alike w'' :=
  ⟨h'.rejected.trans h.rejected, h'.throttled.trans h.throttled, h'.events.trans h.events⟩

/-- Such scenes take the same documents. -/
theorem Scene.Alike.takes {w w' : Scene} (h : w.Alike w') (again : Nat) (id : String) :
    w'.index.takes again id = w.index.takes again id := by
  refine Index.Memory.takes_congr h.rejected ?_ again
  rw [Index.Memory.waits, Index.Memory.waits, h.throttled]

namespace Index

variable {store : Store.Memory} {faulty : Prop} {w : Scene}

theorem Memory.ifExists_of_isSome {α : Type} {m : Memory} (h : m.mapping.isSome = true)
    (answer : α) (after : Memory) : m.ifExists answer after = (.ok answer, after) := by
  obtain ⟨mapping, hmapping⟩ := Option.isSome_iff_exists.1 h
  rw [ifExists, hmapping]

/-- The index once it exists, with the mapping that it had or else the fixed one. -/
def Memory.established (m : Memory) : Memory :=
  { m with mapping := some (m.mapping.getD fixedMapping) }

theorem Memory.established_of_some {m : Memory} {mapping : Json} (h : m.mapping = some mapping) :
    m.established = m := by
  cases m
  cases h
  rfl

@[simp]
theorem Memory.established_established (m : Memory) : m.established.established = m.established :=
  established_of_some rfl

/-- Only an index that is absent can be created. -/
theorem Memory.answer_create {m : Memory} (h : m.mapping = none) :
    m.answer (.create fixedMapping) = (.ok (), m.established) := by
  simp [answer, established, h]

def Memory.dropped (m : Memory) : Memory := { m with mapping := none, documents := [] }

theorem Memory.answer_drop_of_some {m : Memory} {mapping : Json} (h : m.mapping = some mapping) :
    m.answer .drop = (.ok (), m.dropped) :=
  ifExists_of_isSome (by rw [h]; rfl) _ _

theorem Memory.answer_drop_of_none {m : Memory} (h : m.mapping = none) :
    m.answer .drop = (.error missing, m) := by
  simp only [answer, ifExists, h]

namespace Client

/-- Whether the index is created is decided by whether it was found. -/
theorem ensureSchema_rule {ω : Type} {sem : Semantics ω} {w : ω} {good : Unit → ω → Prop}
    {bad : Failure → ω → Prop} (absent : ω → Prop) (idle : Idle sem absent)
    (asked : (Task.index .exists).Ends sem w
      (fun found w' => if found then good () w' else absent w') bad)
    (created : ∀ w', absent w' → (Task.index (.create fixedMapping)).Ends sem w' good bad) :
    ensureSchema.Ends sem w good bad := by
  unfold ensureSchema
  refine asked.bind ?_ fun _ _ h => h
  intro found w' h
  cases found with
  | true => exact h
  | false => exact (idle.log_ends h).always_bind fun _ w'' h => created w'' h

/-- An index that was dropped, or is said to be absent, is created. -/
theorem recreateSchema_rule {ω : Type} {sem : Semantics ω} {w : ω} {good : Unit → ω → Prop}
    {bad : Failure → ω → Prop} (absent : ω → Prop) (idle : Idle sem absent)
    (dropped : (Task.index .drop).Ends sem w (fun _ w' => absent w')
      fun f w' => if f.isNotFound then absent w' else bad f w')
    (created : ∀ w', absent w' → ensureSchema.Ends sem w' good bad) :
    recreateSchema.Ends sem w good bad := by
  unfold recreateSchema
  refine Task.ends_bind.2 (Task.ends_always.2 (dropped.attempt ?_ ?_))
  · exact fun _ w' h => (idle.log_ends h).always_bind fun _ w'' h => created w'' h
  · intro f w' h
    dsimp only
    split at h
    · next missing =>
      rw [if_pos missing]
      exact (idle.log_ends h).always_bind fun _ w'' h => created w'' h
    · next present =>
      rw [if_neg present]
      exact h

/-- An index that is asked to exist is established, unless a fault strikes before that. -/
theorem ensureSchema_established :
    ensureSchema.Ends (inMemory store faulty) w
      (fun _ w' => w' = ⟨w.index.established, w.events⟩)
      (fun _ w' => faulty ∧ (w' = w ∨ w' = ⟨w.index.established, w.events⟩)) := by
  refine ensureSchema_rule (fun w' => w' = w ∧ w.index.mapping = none) (idle_inMemory _) ?_ ?_
  · refine (Task.ends_index_ok rfl).mono ?_ ?_
    · rintro _ w' ⟨rfl, same⟩
      obtain rfl : w = w' := same.symm
      cases mapping : w.index.mapping with
      | none => exact ⟨rfl, rfl⟩
      | some _ =>
        simp only [Option.isSome_some, if_true]
        rw [Memory.established_of_some mapping]
    · rintro f w' ⟨hfaulty, -, left⟩
      exact ⟨hfaulty, .inl (left.elim id id)⟩
  · rintro _ ⟨rfl, absent⟩
    exact (Task.ends_index_ok (Memory.answer_create absent)).mono (fun _ _ h => h.2)
      fun _ _ h => ⟨h.1, h.2.2⟩

/-- An index that is asked to exist does, with the documents that it had. -/
theorem ensureSchema_ends :
    ensureSchema.Ends (inMemory store faulty) w
      (fun _ w' => w'.index.mapping.isSome = true ∧ w'.index.documents = w.index.documents ∧
        w.Alike w')
      (fun _ w' => faulty ∧ w'.index.documents = w.index.documents ∧ w.Alike w') := by
  refine ensureSchema_established.mono ?_ ?_
  · rintro _ _ rfl
    exact ⟨rfl, rfl, rfl, rfl, rfl⟩
  · rintro f _ ⟨hfaulty, rfl | rfl⟩
    · exact ⟨hfaulty, rfl, .refl _⟩
    · exact ⟨hfaulty, rfl, rfl, rfl, rfl⟩

/-- An index that is created anew has no documents. -/
theorem recreateSchema_ends (sound : w.index.Sound) :
    recreateSchema.Ends (inMemory store faulty) w
      (fun _ w' => w'.index.mapping.isSome = true ∧ w'.index.documents = [] ∧ w.Alike w')
      (fun _ w' => faulty ∧ w.Alike w') := by
  refine recreateSchema_rule (fun w' => w'.index.documents = [] ∧ w.Alike w') (idle_inMemory _)
    ?_ ?_
  · cases mapping : w.index.mapping with
    | none =>
      refine (Task.ends_index_error (Memory.answer_drop_of_none mapping)).mono nofun ?_
      rintro f w' (⟨rfl, rfl⟩ | ⟨hfaulty, present, left⟩)
      · exact ⟨sound.absent mapping, .refl w⟩
      · obtain rfl : w' = w := left.elim id id
        rw [present]
        exact ⟨hfaulty, .refl w'⟩
    | some _ =>
      refine (Task.ends_index_ok (Memory.answer_drop_of_some mapping)).mono ?_ ?_
      · rintro _ _ ⟨-, rfl⟩
        exact ⟨rfl, rfl, rfl, rfl⟩
      · rintro f _ ⟨hfaulty, present, rfl | rfl⟩
        · rw [present]
          exact ⟨hfaulty, .refl _⟩
        · rw [present]
          exact ⟨hfaulty, rfl, rfl, rfl⟩
  · rintro w' ⟨empty, alike⟩
    exact ensureSchema_ends.mono
      (fun _ _ ⟨existing, same, alike'⟩ => ⟨existing, same.trans empty, alike.trans alike'⟩)
      fun _ _ ⟨hfaulty, _, alike'⟩ => ⟨hfaulty, alike.trans alike'⟩

/-- Emptying an index keeps its mapping. -/
theorem deleteAllDocuments_ends (hmapping : w.index.mapping.isSome = true) :
    deleteAllDocuments.Ends (inMemory store faulty) w
      (fun _ w' => w'.index.mapping.isSome = true ∧ w'.index.documents = [] ∧ w.Alike w')
      (fun _ w' => faulty ∧ w'.index.mapping.isSome = true ∧ w.Alike w') := by
  have hanswer : w.index.answer .deleteAll =
      (.ok w.index.documents.length, { w.index with documents := [] }) :=
    Memory.ifExists_of_isSome hmapping _ _
  unfold deleteAllDocuments
  refine (Task.ends_index_ok hanswer).bind ?_ ?_
  · intro deleted w' h
    obtain ⟨-, rfl⟩ := h
    refine Task.ends_bind.2 (Task.ends_always.2 (Job.ends_log ?_))
    exact ⟨hmapping, rfl, rfl, rfl, rfl⟩
  · intro f w' h
    obtain ⟨hfaulty, -, rfl | rfl⟩ := h
    · exact ⟨hfaulty, hmapping, .refl w'⟩
    · exact ⟨hfaulty, hmapping, rfl, rfl, rfl⟩

/-- Refreshing an index changes nothing else, however often it is tried. -/
theorem refresh_ends (client : Client) (name : String) (hmapping : w.index.mapping.isSome = true) :
    (client.withTimeoutRetry name (Task.index .refresh)).Ends (inMemory store faulty) w
      (fun _ w' => w'.index.documents = w.index.documents ∧ w'.index.mapping.isSome = true ∧
        w.Alike w')
      (fun _ _ => faulty) := by
  have each (w' : Scene) (h : w'.index.documents = w.index.documents ∧
      w'.index.mapping.isSome = true ∧ w.Alike w') :
      (Task.index .refresh).Ends (inMemory store faulty) w'
        (fun _ w'' => w''.index.documents = w.index.documents ∧ w''.index.mapping.isSome = true ∧
          w.Alike w'')
        (fun _ w'' => faulty ∧ w''.index.documents = w.index.documents ∧
          w''.index.mapping.isSome = true ∧ w.Alike w'') := by
    obtain ⟨hsame, hsome, halike⟩ := h
    have hanswer : w'.index.answer .refresh =
        (.ok (), { w'.index with refreshes := w'.index.refreshes + 1 }) :=
      Memory.ifExists_of_isSome hsome _ _
    refine (Task.ends_index_ok hanswer).mono ?_ ?_
    · intro _ w'' h
      obtain ⟨-, rfl⟩ := h
      exact ⟨hsame, hsome, halike.trans ⟨rfl, rfl, rfl⟩⟩
    · intro f w'' h
      obtain ⟨hfaulty, -, rfl | rfl⟩ := h
      · exact ⟨hfaulty, hsame, hsome, halike⟩
      · exact ⟨hfaulty, hsame, hsome, halike.trans ⟨rfl, rfl, rfl⟩⟩
  exact (client.withTimeoutRetry_ends name each ⟨rfl, hmapping, .refl w⟩).mono
    (fun _ _ h => h) fun _ _ h => h.1

/-- What changes nothing can be tried again. -/
theorem steady_ends {α : Type} {task : Task α} {good : α → Prop} {bad : Failure → Prop}
    (client : Client) (name : String)
    (h : task.Ends (inMemory store faulty) w (fun a w' => good a ∧ w' = w)
      fun f w' => bad f ∧ w' = w) :
    (client.withTimeoutRetry name task).Ends (inMemory store faulty) w
      (fun a w' => good a ∧ w' = w) fun f w' => bad f ∧ w' = w := by
  have each (w' : Scene) (hw : w' = w) : task.Ends (inMemory store faulty) w'
      (fun a w'' => good a ∧ w'' = w) fun f w'' => bad f ∧ w'' = w := by
    subst hw
    exact h
  exact client.withTimeoutRetry_ends name each rfl

end Client

/-- A request that changes nothing is answered, or a fault strikes. -/
theorem lookup_ends {call : Call} {answer : Except Failure call.Answer}
    (h : w.index.answer call = (answer, w.index)) :
    (Task.index call).Ends (inMemory store faulty) w (fun a w' => answer = .ok a ∧ w' = w)
      (fun f w' => (answer = .error f ∨ faulty ∧ f.isNotFound = false) ∧ w' = w) := by
  refine (Task.ends_index call).mono ?_ ?_
  · intro a w' h
    obtain ⟨ha, rfl⟩ := h
    rw [h] at ha ⊢
    exact ⟨ha, rfl⟩
  · intro f w' h
    rcases h with ⟨hf, rfl⟩ | ⟨hfaulty, hf, rfl | rfl⟩
    · rw [h] at hf ⊢
      exact ⟨.inl hf, rfl⟩
    · exact ⟨.inr ⟨hfaulty, hf⟩, rfl⟩
    · rw [h]
      exact ⟨.inr ⟨hfaulty, hf⟩, rfl⟩

/-- A request that the index can answer without a change fails only by a fault. -/
theorem answered_ends {call : Call} {value : call.Answer}
    (h : w.index.answer call = (.ok value, w.index)) :
    (Task.index call).Ends (inMemory store faulty) w (fun a w' => a = value ∧ w' = w)
      (fun _ w' => faulty ∧ w' = w) := by
  refine (lookup_ends h).mono ?_ ?_
  · intro a w' h
    obtain ⟨ha, hw⟩ := h
    exact ⟨(Except.ok.inj ha).symm, hw⟩
  · intro f w' h
    obtain ⟨hf | ⟨hfaulty, -⟩, hw⟩ := h
    · cases hf
    · exact ⟨hfaulty, hw⟩

end Index

end CatalogSearch
