import CatalogSearch.Proofs.Job.Quiet
import CatalogSearch.Proofs.Rehearsal.Disturbed

/-!
# Rehearsals on a cluster

With no faults planned, a request to the index is the backend's exchange with its cluster and all
other effects leave the link alone. What a task does is thus a matter of the link's replies.
-/
namespace CatalogSearch.Rehearsal

open Cluster (Backend Link)

/-- Requests to the index of a cluster. The store may answer anything. -/
def onCluster (b : Backend) : Semantics Link
  | .index call, link, answer, link' => (b.answer call).run.run link = (answer, link')
  | .store _, link, _, link' => link' = link
  | .pause _, link, _, link' => link' = link
  | .report _, link, _, link' => link' = link
  | .log _, link, _, link' => link' = link

/-- A rehearsal on a cluster, with no faults planned. -/
def connected (store : StoreSide) (b : Backend) (link : Link) (journal : Journal) : Stage where
  store := store
  index := .cluster b link
  journal := journal

variable {b : Backend} {link : Link} {store : StoreSide} {journal : Journal}

theorem idle_onCluster (inv : Link → Prop) : Idle (onCluster b) inv where
  log _ _ _ _ step h := step ▸ h
  pause _ _ _ _ step h := step ▸ h

theorem handler_index_connected (call : Index.Call) :
    Stage.handler (.index call) (connected store b link journal) =
      (((b.answer call).run.run link).1,
        connected store b ((b.answer call).run.run link).2
          { journal with calls := journal.calls ++ [call.name] }) := by
  simp only [Stage.handler, Stage.begin, connected, drawFirst_empty]
  cases call <;> rfl

/-- A rehearsal on a cluster answers as the backend does. -/
theorem connected_follows (store : StoreSide) (b : Backend) :
    Job.Follows Stage.handler (fun s link => ∃ journal, s = connected store b link journal)
      (onCluster b) := by
  rintro effect s link ⟨journal, rfl⟩
  cases effect with
  | store call =>
    refine ⟨link, rfl, { journal with calls := journal.calls ++ [call.name] }, ?_⟩
    simp only [Stage.handler, Stage.begin, connected, drawFirst_empty]
  | index call =>
    rw [handler_index_connected]
    exact ⟨_, rfl, _, rfl⟩
  | pause span => exact ⟨link, rfl, { journal with pauses := journal.pauses ++ [span] }, rfl⟩
  | report event => exact ⟨link, rfl, { journal with events := journal.events ++ [event] }, rfl⟩
  | log entry => exact ⟨link, rfl, journal, rfl⟩

/-- A task on a cluster ends as it is said to. -/
theorem run_connected {α : Type} {task : Task α} {good : α → Link → Prop}
    {bad : Failure → Link → Prop} (store : StoreSide) (journal : Journal)
    (h : task.Ends (onCluster b) link good bad) :
    ∃ link' journal',
      ((connected store b link journal).run task).2 = connected store b link' journal' ∧
      match ((connected store b link journal).run task).1 with
      | .ok a => good a link'
      | .error f => bad f link' := by
  obtain ⟨link', ⟨journal', left⟩, post⟩ :=
    Job.Ends.run (connected_follows store b) ⟨journal, rfl⟩ h
  refine ⟨link', journal', left, ?_⟩
  unfold Stage.run
  generalize (task.attempt.run Stage.handler (connected store b link journal)).1 = outcome at post ⊢
  cases outcome with
  | ok a => exact post
  | error f => exact post

/-- A request to the index ends as its exchange does. -/
theorem ends_exchange (call : Index.Call) :
    (Task.index call).Ends (onCluster b) link
      (fun a link' => (b.answer call).run.run link = (.ok a, link'))
      (fun f link' => (b.answer call).run.run link = (.error f, link')) := by
  intro answer link' step
  cases answer <;> exact step

end CatalogSearch.Rehearsal
