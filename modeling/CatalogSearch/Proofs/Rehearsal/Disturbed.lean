import CatalogSearch.Proofs.Job.Scene
import CatalogSearch.Rehearsal

/-!
# Calm and disturbed rehearsals

A calm rehearsal has its store and its index in memory and no faults planned. A disturbed one goes
by a schedule that says of every call whether it is answered, is refused before it takes effect,
or takes effect and loses its response. Both stay within what jobs in memory may meet.
-/
namespace CatalogSearch.Rehearsal

/-- A rehearsal on a store and an index in memory, with no faults planned. -/
def calm (store : Store.Memory) (index : Index.Memory) (journal : Journal) : Stage where
  store := .memory store
  index := .memory index
  journal := journal

/-- The scene of a calm rehearsal. -/
def Shows (store : Store.Memory) (s : Stage) (w : Scene) : Prop :=
  ∃ journal : Journal, s = calm store w.index journal ∧ journal.events = w.events

variable {store : Store.Memory} {index : Index.Memory} {journal : Journal}

theorem drawFirst_empty (kinds : List String) : Faults.drawFirst kinds {} = (none, {}) := by
  induction kinds with
  | nil => rfl
  | cons kind rest ih => exact ih

theorem answerIndex_calm (call : Index.Call) :
    (calm store index journal).answerIndex call =
      ((index.answer call).1, calm store (index.answer call).2 journal) := by
  cases call <;> rfl

theorem begin_calm (name : String) (kinds : List String) :
    (calm store index journal).begin name kinds =
      (none, calm store index { journal with calls := journal.calls ++ [name] }) := by
  simp only [Stage.begin, calm, drawFirst_empty]

theorem handler_index_calm (call : Index.Call) :
    Stage.handler (.index call) (calm store index journal) =
      ((index.answer call).1, calm store (index.answer call).2
        { journal with calls := journal.calls ++ [call.name] }) := by
  simp only [Stage.handler, begin_calm, answerIndex_calm]

/-- A calm rehearsal answers as its store and its index do. -/
theorem calm_follows (store : Store.Memory) :
    Job.Follows Stage.handler (Shows store) (inMemory store False) := by
  intro effect s w h
  obtain ⟨journal, rfl, hevents⟩ := h
  cases effect with
  | store call =>
    exact ⟨w, ⟨rfl, .inl rfl⟩, { journal with calls := journal.calls ++ [call.name] }, rfl, hevents⟩
  | index call =>
    rw [handler_index_calm]
    exact ⟨⟨(w.index.answer call).2, w.events⟩, .inl ⟨rfl, rfl⟩,
      { journal with calls := journal.calls ++ [call.name] }, rfl, hevents⟩
  | pause span =>
    exact ⟨w, rfl, { journal with pauses := journal.pauses ++ [span] }, rfl, hevents⟩
  | report event =>
    exact ⟨⟨w.index, w.events ++ [event]⟩, rfl,
      { journal with events := journal.events ++ [event] }, rfl, by rw [← hevents]⟩
  | log entry => exact ⟨w, rfl, journal, rfl, hevents⟩

/-- What becomes of a call. -/
inductive Fate where
  /-- It is answered. -/
  | answered
  /-- It fails and has no effect. -/
  | refused (failure : Failure)
  /-- It takes effect, but fails. -/
  | lost (failure : Failure)

/-- A schedule, which says what becomes of each call to the store or the index, whose failures never
say that something is absent. -/
structure Schedule where
  fate : Nat → Fate
  present : ∀ n failure, fate n = .refused failure ∨ fate n = .lost failure →
    failure.isNotFound = false

/-- The schedule by which one call loses its response and all others are answered. -/
def Schedule.losing (lost : Nat) (failure : Failure) (present : failure.isNotFound = false) :
    Schedule where
  fate n := if n = lost then .lost failure else .answered
  present n f h := by
    split at h
    · rcases h with h | h
      · cases h
      · cases h
        exact present
    · rcases h with h | h <;> cases h

/-- What a call comes to whose outcome would be this. -/
def Fate.strike {α σ : Type} (fate : Fate) (before : σ) (outcome : Except Failure α × σ) :
    Except Failure α × σ :=
  match fate with
  | .answered => outcome
  | .refused failure => (.error failure, before)
  | .lost failure => (.error failure, outcome.2)

/-- A handler whose calls to the store and the index go by a schedule; the state counts them. -/
def disturbed {σ : Type} (schedule : Schedule) (handler : Job.Handler σ) : Job.Handler (Nat × σ)
  | .store call, (n, s) =>
    let (answer, after) := (schedule.fate n).strike s (handler (.store call) s)
    (answer, (n + 1, after))
  | .index call, (n, s) =>
    let (answer, after) := (schedule.fate n).strike s (handler (.index call) s)
    (answer, (n + 1, after))
  | .pause span, (n, s) =>
    let (answer, after) := handler (.pause span) s
    (answer, (n, after))
  | .report event, (n, s) =>
    let (answer, after) := handler (.report event) s
    (answer, (n, after))
  | .log entry, (n, s) =>
    let (answer, after) := handler (.log entry) s
    (answer, (n, after))

/-- A disturbed rehearsal answers, or shows a fault before a call took effect or after. -/
theorem disturbed_follows (store : Store.Memory) (schedule : Schedule) :
    Job.Follows (disturbed schedule Stage.handler) (fun s w => Shows store s.2 w)
      (inMemory store True) := by
  rintro effect ⟨n, s⟩ w hs
  obtain ⟨w', hstep, hs'⟩ := calm_follows store effect s w hs
  cases effect with
  | store call =>
    obtain ⟨rfl, hanswer⟩ := hstep
    simp only [disturbed]
    cases hfate : schedule.fate n with
    | answered => exact ⟨w', ⟨rfl, .inl (hanswer.resolve_right fun h => h.1)⟩, hs'⟩
    | refused failure =>
      have hpresent := schedule.present n failure (.inl hfate)
      exact ⟨w', ⟨rfl, .inr ⟨trivial, failure, rfl, hpresent⟩⟩, hs⟩
    | lost failure =>
      have hpresent := schedule.present n failure (.inr hfate)
      exact ⟨w', ⟨rfl, .inr ⟨trivial, failure, rfl, hpresent⟩⟩, hs'⟩
  | index call =>
    obtain ⟨hanswer, rfl⟩ := hstep.resolve_right fun h => h.1.1
    simp only [disturbed]
    cases hfate : schedule.fate n with
    | answered => exact ⟨_, .inl ⟨hanswer, rfl⟩, hs'⟩
    | refused failure =>
      have hpresent := schedule.present n failure (.inl hfate)
      exact ⟨w, .inr ⟨⟨trivial, failure, rfl, hpresent⟩, .inl rfl⟩, hs⟩
    | lost failure =>
      have hpresent := schedule.present n failure (.inr hfate)
      exact ⟨_, .inr ⟨⟨trivial, failure, rfl, hpresent⟩, .inr rfl⟩, hs'⟩
  | pause span => exact ⟨w', hstep, hs'⟩
  | report event => exact ⟨w', hstep, hs'⟩
  | log entry => exact ⟨w', hstep, hs'⟩

/-- Run a task to its outcome under a schedule of faults. -/
def Stage.runUnder {α : Type} (schedule : Schedule) (s : Stage) (task : Task α) :
    Except Failure α × Stage :=
  let (outcome, _, after) := task.attempt.run (disturbed schedule handler) (0, s)
  (outcome, after)

variable {α : Type} {task : Task α} {good : α → Scene → Prop} {bad : Failure → Scene → Prop}

/-- A task in a calm rehearsal succeeds or fails as it is said to. -/
theorem run_calm_ends (h : task.Ends (inMemory store False) ⟨index, journal.events⟩ good bad) :
    ∃ outcome index' journal',
      (calm store index journal).run task = (outcome, calm store index' journal') ∧
      match outcome with
      | .ok a => good a ⟨index', journal'.events⟩
      | .error f => bad f ⟨index', journal'.events⟩ := by
  obtain ⟨w', ⟨journal', hstage, hevents⟩, hpost⟩ :=
    Job.Ends.run (calm_follows store) ⟨journal, rfl, rfl⟩ h
  unfold Stage.run
  generalize task.attempt.run Stage.handler (calm store index journal) = result at hstage hpost
  obtain ⟨outcome, s⟩ := result
  refine ⟨outcome, w'.index, journal', by rw [← hstage], ?_⟩
  rw [hevents]
  cases outcome with
  | ok a => exact hpost
  | error f => exact hpost

/-- A task that can only fail by a fault succeeds in a calm rehearsal. -/
theorem run_calm (h : task.Ends (inMemory store False) ⟨index, journal.events⟩ good
    fun _ _ => False) :
    ∃ a index' journal', (calm store index journal).run task = (.ok a, calm store index' journal') ∧
      good a ⟨index', journal'.events⟩ := by
  obtain ⟨outcome, index', journal', hrun, hpost⟩ := run_calm_ends h
  cases outcome with
  | ok a => exact ⟨a, index', journal', hrun, hpost⟩
  | error f => exact hpost.elim

/-- A task that succeeds under a schedule of faults ends as it is said to. -/
theorem runUnder_calm (schedule : Schedule)
    (h : task.Ends (inMemory store True) ⟨index, journal.events⟩ good bad) {a : α}
    (hrun : ((calm store index journal).runUnder schedule task).1 = .ok a) :
    ∃ index' journal',
      ((calm store index journal).runUnder schedule task).2 = calm store index' journal' ∧
      good a ⟨index', journal'.events⟩ := by
  obtain ⟨w', ⟨journal', hstage, hevents⟩, hpost⟩ :=
    Job.Ends.run (s := (0, calm store index journal)) (disturbed_follows store schedule)
      ⟨journal, rfl, rfl⟩ h
  simp only [Stage.runUnder] at hrun ⊢
  rw [hrun] at hpost
  refine ⟨w'.index, journal', hstage, ?_⟩
  rw [hevents]
  exact hpost

end CatalogSearch.Rehearsal
