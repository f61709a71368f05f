import CatalogSearch.Proofs.Job.Confined
import CatalogSearch.Sync

/-!
# What comes before the pages

Before its page loop, a full sync counts documents, drops, creates or empties the index, looks at
the mapping, and notes the phases that it comes through. What is said of all these effects is said
of the parts that the beginning is made of.
-/
namespace CatalogSearch.Sync

open Index (Client)
open Job (Event)

/-- The note with which a phase begins. -/
def Phase.note (phase : Phase) : Log.Entry :=
  ⟨.debug, logTarget, "sync phase", [("phase", phase.name)]⟩

def Phase.begins (phase : Phase) : Effect → Bool
  | .log entry => entry = phase.note
  | _ => false

/-- Did a phase begin? -/
def Phase.entered (phase : Phase) (history : List Event) : Bool :=
  history.any fun e => phase.begins e.1

theorem Phase.entered_append (phase : Phase) (history more : List Event) :
    phase.entered (history ++ more) = (phase.entered history || phase.entered more) :=
  List.any_append

/-- Something is true of all that comes before the page loop. -/
structure Opens (p : Effect → Prop) : Prop where
  note : ∀ entry, entry ≠ Phase.pageLoop.note → p (.log entry)
  pause : ∀ span, p (.pause span)
  count : p (.index .count)
  «exists» : p (.index .exists)
  create : ∀ mapping, p (.index (.create mapping))
  drop : p (.index .drop)
  mapping : p (.index .mapping)
  deleteAll : p (.index .deleteAll)

variable {p : Effect → Prop}

namespace Opens

/-- The notes of other parts of the program begin no phase. -/
theorem foreign (opens : Opens p) {entry : Log.Entry} (other : entry.target ≠ logTarget) :
    p (.log entry) :=
  opens.note entry fun same => other (congrArg Log.Entry.target same)

theorem withTimeoutRetry {α : Type} {task : Task α} (opens : Opens p) (h : task.Confined p)
    (client : Client) (name : String) : (client.withTimeoutRetry name task).Confined p :=
  h.withTimeoutRetry (fun _ target => opens.foreign (by rw [target]; decide)) opens.pause client
    name

theorem indexNote (opens : Opens p) {level : Log.Level} {message : String}
    {details : List (String × String)} :
    (Job.log level Client.logTarget message details).Confined p :=
  Job.confined_perform (opens.foreign (show Client.logTarget ≠ logTarget by decide))

theorem ensureSchema (opens : Opens p) : Client.ensureSchema.Confined p := by
  unfold Client.ensureSchema
  apply Task.confined_bind (Task.confined_index opens.exists)
  intro existing
  split
  · exact Task.confined_bind (Task.confined_always opens.indexNote) fun _ =>
      Task.confined_index (opens.create _)
  · exact Task.confined_pure _

theorem recreateSchema (opens : Opens p) : Client.recreateSchema.Confined p := by
  unfold Client.recreateSchema
  apply Task.confined_bind (Task.confined_always (Task.confined_index opens.drop))
  intro outcome
  cases outcome with
  | ok value =>
    exact Task.confined_bind (Task.confined_always opens.indexNote) fun _ => opens.ensureSchema
  | error failure =>
    dsimp only
    split
    · exact Task.confined_bind (Task.confined_always opens.indexNote) fun _ => opens.ensureSchema
    · exact Task.confined_bind (Task.confined_fail _) fun _ => opens.ensureSchema

theorem deleteAllDocuments (opens : Opens p) : Client.deleteAllDocuments.Confined p := by
  unfold Client.deleteAllDocuments
  apply Task.confined_bind (Task.confined_index opens.deleteAll)
  intro deleted
  exact Task.confined_bind (Task.confined_always opens.indexNote) fun _ => Task.confined_pure _

theorem hasExactKeywordField (opens : Opens p) : Client.hasExactKeywordField.Confined p :=
  Task.confined_bind (Task.confined_index opens.mapping) fun _ => Task.confined_pure _

theorem countOrZero (opens : Opens p) (client : Client) : (countOrZero client).Confined p := by
  have count := opens.withTimeoutRetry (Task.confined_index opens.count) client "count"
  unfold Sync.countOrZero
  apply Task.confined_bind (Task.confined_always count)
  intro outcome
  cases outcome with
  | ok n => exact Task.confined_pure _
  | error failure =>
    dsimp only
    split
    · exact Task.confined_pure _
    · exact Task.confined_fail _

theorem recreate (opens : Opens p) (client : Client) : (recreate client).Confined p := by
  unfold Sync.recreate
  apply Task.confined_bind (Task.confined_always (Job.confined_perform (opens.note _ (by decide))))
  intro _
  apply Task.confined_bind
    (opens.withTimeoutRetry opens.recreateSchema client "recreate_schema").withContext
  intro _
  apply Task.confined_bind (opens.withTimeoutRetry opens.hasExactKeywordField client "get_mapping")
  intro exact
  split
  · exact Task.confined_bind
      (Task.confined_always (Job.confined_perform (opens.note _ (by decide)))) fun _ =>
        Task.confined_pure _
  · exact Task.confined_pure _

theorem empty (opens : Opens p) (client : Client) : (empty client).Confined p := by
  unfold Sync.empty
  apply Task.confined_bind (Task.confined_always (Job.confined_perform (opens.note _ (by decide))))
  intro _
  apply Task.confined_bind
    (opens.withTimeoutRetry opens.ensureSchema client "ensure_schema").withContext
  intro _
  apply Task.confined_bind
    (opens.withTimeoutRetry opens.deleteAllDocuments client "delete_all").withContext
  intro _
  exact Task.confined_pure _

end Opens

/-- Whether the index is created again or emptied, what comes next starts from where that ends. -/
theorem opened_ends {α ω : Type} {sem : Semantics ω} {client : Client} {recreateSchema : Bool}
    {w : ω} {rest : Bool → Task α} {mid : ω → Prop} {good : α → ω → Prop} {bad : Failure → ω → Prop}
    (recreates : recreateSchema = true → (recreate client).Ends sem w (fun _ => mid) bad)
    (empties : recreateSchema = false → (empty client).Ends sem w (fun _ => mid) bad)
    (next : ∀ exact w', mid w' → (rest exact).Ends sem w' good bad) :
    (if recreateSchema = true then do
        let exact ← recreate client
        rest exact
      else do
        empty client
        let exact ← pure true
        rest exact).Ends sem w good bad := by
  cases recreateSchema with
  | true =>
    rw [if_pos rfl]
    exact (recreates rfl).bind next fun _ _ h => h
  | false =>
    rw [if_neg Bool.false_ne_true]
    exact (empties rfl).bind (fun _ w' h => next true w' h) fun _ _ h => h

end CatalogSearch.Sync
