import CatalogSearch.Proofs.Rehearsal.Disturbed

/-!
# Rehearsals in which any call may fail in any way

A calm rehearsal answers an effect as its store and its index do. Around it, a fate can be chosen
freely for every single call: the failure in place of an answer may be of any kind, also one that
says that something is absent.
-/
namespace CatalogSearch.Rehearsal

/-- How a store and an index in memory answer effects. -/
def answering (store : Store.Memory) : Job.Handler Index.Memory
  | .store call, m => (store.answer call, m)
  | .index call, m => m.answer call
  | .pause _, m => ((), m)
  | .report _, m => ((), m)
  | .log _, m => ((), m)

/-- A calm rehearsal answers as its store and its index do, and notes something. -/
theorem handler_calm (store : Store.Memory) (index : Index.Memory) (journal : Journal)
    (effect : Effect) :
    ∃ journal', Stage.handler effect (calm store index journal) =
      ((answering store effect index).1, calm store (answering store effect index).2 journal') := by
  cases effect with
  | store call =>
    refine ⟨{ journal with calls := journal.calls ++ [call.name] }, ?_⟩
    simp only [Stage.handler, begin_calm]
    rfl
  | index call => exact ⟨_, handler_index_calm call⟩
  | pause span => exact ⟨_, rfl⟩
  | report event => exact ⟨_, rfl⟩
  | log entry => exact ⟨_, rfl⟩

/-- Calls to a store and an index in memory of which each may fail, before it took effect or
after. -/
def unreliable (store : Store.Memory) : Semantics Index.Memory
  | .store call, m, answer, m' => m' = m ∧ (answer = store.answer call ∨ ∃ f, answer = .error f)
  | .index call, m, answer, m' =>
    (answer = (m.answer call).1 ∧ m' = (m.answer call).2) ∨
    ((∃ f, answer = .error f) ∧ (m' = m ∨ m' = (m.answer call).2))
  | .pause _, m, _, m' => m' = m
  | .report _, m, _, m' => m' = m
  | .log _, m, _, m' => m' = m

/-- A handler that gives every call to the store and the index its fate; the state counts the
calls. -/
def struck {σ : Type} (fates : Nat → Fate) (handler : Job.Handler σ) : Job.Handler (Nat × σ)
  | .store call, (n, s) =>
    let (answer, after) := (fates n).strike s (handler (.store call) s)
    (answer, (n + 1, after))
  | .index call, (n, s) =>
    let (answer, after) := (fates n).strike s (handler (.index call) s)
    (answer, (n + 1, after))
  | .pause span, (n, s) =>
    let (answer, after) := handler (.pause span) s
    (answer, (n, after))
  | .report event, (n, s) =>
    let (answer, after) := handler (.report event) s
    (answer, (n, after))
  | .log entry, (n, s) =>
    let (answer, after) := handler (.log entry) s
    (answer, (n, after))

/-- A schedule of faults is a choice of fates. -/
theorem disturbed_eq_struck {σ : Type} (schedule : Schedule) (handler : Job.Handler σ) :
    disturbed schedule handler = struck schedule.fate handler := by
  funext effect ⟨n, s⟩
  cases effect <;> rfl

/-- Whatever the fates, a rehearsal stays within what an unreliable store and index may do. -/
theorem struck_follows (store : Store.Memory) (fates : Nat → Fate) :
    Job.Follows (struck fates Stage.handler)
      (fun s m => ∃ journal, s.2 = calm store m journal) (unreliable store) := by
  rintro effect ⟨n, s⟩ m ⟨journal, rfl⟩
  obtain ⟨journal', hanswer⟩ := handler_calm store m journal effect
  cases effect with
  | store call =>
    simp only [struck, hanswer]
    cases fates n with
    | answered => exact ⟨m, ⟨rfl, .inl rfl⟩, journal', rfl⟩
    | refused failure => exact ⟨m, ⟨rfl, .inr ⟨failure, rfl⟩⟩, journal, rfl⟩
    | lost failure => exact ⟨m, ⟨rfl, .inr ⟨failure, rfl⟩⟩, journal', rfl⟩
  | index call =>
    simp only [struck, hanswer]
    cases fates n with
    | answered => exact ⟨(m.answer call).2, .inl ⟨rfl, rfl⟩, journal', rfl⟩
    | refused failure => exact ⟨m, .inr ⟨⟨failure, rfl⟩, .inl rfl⟩, journal, rfl⟩
    | lost failure => exact ⟨(m.answer call).2, .inr ⟨⟨failure, rfl⟩, .inr rfl⟩, journal', rfl⟩
  | pause span => exact ⟨m, rfl, journal', congrArg Prod.snd hanswer⟩
  | report event => exact ⟨m, rfl, journal', congrArg Prod.snd hanswer⟩
  | log entry => exact ⟨m, rfl, journal', congrArg Prod.snd hanswer⟩

/-- The rehearsal that a task leaves whose calls have some fates. -/
def Stage.leftBy {α : Type} (fates : Nat → Fate) (s : Stage) (task : Task α) : Stage :=
  (task.attempt.run (struck fates handler) (0, s)).2.2

/-- What a task keeps however its calls fail holds of the index that it leaves. -/
theorem leftBy_calm {α : Type} {store : Store.Memory} {index : Index.Memory} {task : Task α}
    {inv : Index.Memory → Prop} (journal : Journal) (fates : Nat → Fate)
    (h : task.Ends (unreliable store) index (fun _ => inv) fun _ => inv) :
    ∃ index' journal',
      (calm store index journal).leftBy fates task = calm store index' journal' ∧ inv index' := by
  have hinv : task.attempt.Ends (unreliable store) index fun _ => inv :=
    h.attempt (fun _ _ h => h) fun _ _ h => h
  obtain ⟨index', ⟨journal', hstage⟩, hpost⟩ :=
    Job.Ends.run (s := (0, calm store index journal)) (struck_follows store fates)
      ⟨journal, rfl⟩ hinv
  exact ⟨index', journal', hstage, hpost⟩

end CatalogSearch.Rehearsal
