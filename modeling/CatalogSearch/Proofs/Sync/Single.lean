import CatalogSearch.Proofs.Index.Outcomes
import CatalogSearch.Proofs.Index.Schema
import CatalogSearch.Proofs.Index.Upsert
import CatalogSearch.Proofs.Rehearsal.Disturbed
import CatalogSearch.Proofs.Store.Pages

/-!
# Syncing a single record

A single record is found by its id or else by its slug, and its document is the only one that can
change. The index is created if it is absent, and otherwise keeps its mapping.
-/
namespace CatalogSearch

/-- Does an effect take something away from the index? -/
def Effect.removes : Effect → Bool
  | .index .drop => true
  | .index .deleteAll => true
  | .index (.deleteDocument _) => true
  | _ => false

namespace Sync

open Index (Client Memory maxResubmissions)
open Rehearsal (Journal Stage calm)

variable {store : Store.Memory} {index : Memory} {journal : Journal} {key : String} {r : Record}

/-- The record that a key stands for: the one with this id, or else the first with this slug. -/
structure Designates (store : Store.Memory) (key : String) (r : Record) : Prop where
  member : r ∈ store.all
  named : r.id = key ∨ (∀ s ∈ store.all, s.id ≠ key) ∧ r.slug = key ∧
    ∀ s ∈ store.all, s.slug = key → r.id ≤ s.id

/-- The answers of the store put together. -/
def resolved (store : Store.Memory) (key : String) : Option Record :=
  (Keyed.find? key store.records).or (store.all.find? fun r => r.slug = key)

theorem find?_records_eq_none_iff (hstore : store.Sound) :
    Keyed.find? key store.records = none ↔ ∀ r ∈ store.all, r.id ≠ key := by
  rw [Keyed.find?_eq_none_iff, hstore.records_eq]
  simp [Keyed.keys]

/-- Among records with ascending ids, the first one of a kind has the smallest id. -/
theorem find?_eq_some_iff_least {records : List Record} (p : Record → Bool)
    (ascend : records.Pairwise fun a b => a.id < b.id) :
    records.find? p = some r ↔
      r ∈ records ∧ p r = true ∧ ∀ s ∈ records, p s = true → r.id ≤ s.id := by
  induction records with
  | nil => simp
  | cons a rest ih =>
    obtain ⟨ahead, ascends⟩ := List.pairwise_cons.1 ascend
    by_cases first : p a = true
    · rw [List.find?_cons_of_pos first, Option.some.injEq]
      constructor
      · rintro rfl
        refine ⟨.head _, first, fun s mem _ => ?_⟩
        obtain rfl | later := List.mem_cons.1 mem
        · exact String.le_refl _
        · exact String.not_lt.1 (String.lt_asymm (ahead s later))
      · rintro ⟨mem, -, least⟩
        obtain rfl | later := List.mem_cons.1 mem
        · rfl
        · exact absurd (ahead r later) (String.not_lt.2 (least a (.head _) first))
    · rw [List.find?_cons_of_neg first, ih ascends]
      simp only [List.mem_cons]
      constructor
      · rintro ⟨mem, found, least⟩
        refine ⟨.inr mem, found, ?_⟩
        rintro s (rfl | later) named
        · exact absurd named first
        · exact least s later named
      · rintro ⟨rfl | mem, found, least⟩
        · exact absurd found first
        · exact ⟨mem, found, fun s later => least s (.inr later)⟩

theorem resolved_eq_some_iff (hstore : store.Sound) :
    resolved store key = some r ↔ Designates store key r := by
  have slugged := find?_eq_some_iff_least (r := r) (fun r => r.slug = key) hstore.ids_ascend
  simp only [decide_eq_true_eq] at slugged
  constructor
  · intro found
    obtain own | ⟨none, first⟩ := Option.or_eq_some_iff.1 found
    · have entry := Keyed.mem_of_find? own
      exact ⟨List.mem_map_of_mem entry, .inl (hstore.keyed _ entry)⟩
    · obtain ⟨mem, named, least⟩ := slugged.1 first
      exact ⟨mem, .inr ⟨(find?_records_eq_none_iff hstore).1 none, named, least⟩⟩
  · rintro ⟨mem, rfl | ⟨other, named, least⟩⟩
    · exact Option.or_eq_some_iff.2 (.inl (hstore.find?_of_mem mem))
    · exact Option.or_eq_some_iff.2 (.inr ⟨(find?_records_eq_none_iff hstore).2 other,
        slugged.2 ⟨mem, named, least⟩⟩)

theorem resolved_eq_none_iff (hstore : store.Sound) :
    resolved store key = none ↔ ∀ r ∈ store.all, r.id ≠ key ∧ r.slug ≠ key := by
  rw [resolved, Option.or_eq_none_iff, find?_records_eq_none_iff hstore, List.find?_eq_none]
  simp [forall_and]

/-- What is done with the record. -/
def writeRecord (client : Client) (record : Record) : Task Record := do
  Client.ensureSchema
  let summary ← client.upsertBatch [Document.ofRecord record]
  match summary.errors with
  | error :: _ => Task.fail (.documentRejected error)
  | [] =>
    Task.index .refresh
    Task.always (Job.log .info logTarget "indexed single dataset"
      [("id", record.id), ("slug", record.slug)])
    return record

/-- A question to the store is noted and answered. -/
theorem run_store_bind {α : Type} {call : Store.Call} {value : call.Answer}
    (answers : store.answer call = .ok value) (f : call.Answer → Task α) :
    (calm store index journal).run (Task.store call >>= f) =
      (calm store index { journal with calls := journal.calls ++ [call.name] }).run (f value) := by
  have asked : Stage.handler (.store call) (calm store index journal) =
      (.ok value, calm store index { journal with calls := journal.calls ++ [call.name] }) := by
    simp only [Stage.handler, Rehearsal.begin_calm]
    exact congrArg (·, _) answers
  unfold Stage.run
  change (Job.ask (.store call) _).run Stage.handler _ = _
  rw [Job.run_ask, asked]
  rfl

/-- A record that is found is gone on with, and the index is asked nothing before. -/
theorem run_resolve_of_some {α : Type} (found : resolved store key = some r) (f : Record → Task α) :
    ∃ journal', (calm store index journal).run (resolve key >>= f) =
      (calm store index journal').run (f r) := by
  unfold resolve
  rw [bind_assoc, run_store_bind rfl]
  obtain own | ⟨none, first⟩ := Option.or_eq_some_iff.1 found
  · rw [own]
    exact ⟨_, rfl⟩
  · rw [none]
    dsimp only
    rw [bind_assoc, run_store_bind rfl, first]
    exact ⟨_, rfl⟩

/-- A record that is found under neither is reported. -/
theorem run_resolve_of_none {α : Type} (missing : resolved store key = none) (f : Record → Task α) :
    (calm store index journal).run (resolve key >>= f) = (.error (.recordNotFound key),
      calm store index
        { journal with calls := journal.calls ++ ["find_by_id", "find_by_slug"] }) := by
  obtain ⟨none, unnamed⟩ := Option.or_eq_none_iff.1 missing
  unfold resolve
  rw [bind_assoc, run_store_bind rfl, none]
  dsimp only
  rw [bind_assoc, run_store_bind rfl, unnamed, List.append_assoc]
  rfl

/-- The document of the record is written, or it is refused; the index exists after both. -/
theorem writeRecord_ends (client : Client) (r : Record) {w : Scene} (sound : w.index.Sound) :
    (writeRecord client r).Ends (inMemory store False) w
      (fun a w' => a = r ∧ w.index.takes maxResubmissions r.id = true ∧
        w'.index.mapping = w.index.established.mapping ∧
        w'.index.documents = Keyed.insert r.id (Document.ofRecord r) w.index.documents)
      (fun f w' => (∃ item, f = .documentRejected item ∧ item.documentId = r.id) ∧
        w.index.takes maxResubmissions r.id = false ∧
        w'.index.mapping = w.index.established.mapping ∧
        w'.index.documents = w.index.documents) := by
  have existing : w.index.established.mapping.isSome = true := rfl
  have sound₁ : w.index.established.Sound :=
    ⟨sound.ascending, sound.keyed, fun none => by simp [none] at existing, sound.refusals⟩
  have bulking : Index.Bulking (inMemory store False) Scene.index False
      fun w' => w'.events = w.events ∧ w'.index.Sound := Index.bulking_inMemory w.events
  have distinct : ([Document.ofRecord r].map (·.id)).Nodup := List.nodup_singleton _
  unfold writeRecord
  refine Client.ensureSchema_established.bind ?_ fun _ _ h => h.1.elim
  rintro _ _ rfl
  refine (bulking.upsertBatch_ends client (w := ⟨w.index.established, w.events⟩) distinct
    ⟨rfl, sound₁⟩).bind ?_ fun _ _ h => h.1.elim
  rintro summary w' ⟨-, wrote, -, sound'⟩
  have mapping : w'.index.mapping = w.index.established.mapping := wrote.mapping existing
  -- Creating the index changes neither refusals nor waits, so it takes what it took before.
  obtain ⟨none, takes, documents⟩ | ⟨one, takes, documents⟩ := wrote.single sound₁ sound'
  · rw [List.map_eq_nil_iff] at none
    rw [none]
    have answers : w'.index.answer .refresh =
        (.ok (), { w'.index with refreshes := w'.index.refreshes + 1 }) :=
      Memory.ifExists_of_isSome (by rw [mapping, existing]) _ _
    refine (Task.ends_index_ok answers).bind ?_ fun _ _ h => h.1.elim
    rintro _ _ ⟨-, rfl⟩
    exact Task.ends_bind.2 (Task.ends_always.2 (Job.ends_log ⟨rfl, takes, mapping, documents⟩))
  · obtain ⟨item, refused, named⟩ := List.map_eq_singleton_iff.1 one
    rw [refused]
    exact ⟨⟨item, rfl, named⟩, takes, mapping, documents⟩

/-- What a single sync comes to whose record is found. -/
theorem run_singleSync_of_resolved (client : Client) (journal : Journal) (sound : index.Sound)
    (found : resolved store key = some r) :
    ∃ outcome index' journal',
      (calm store index journal).run (singleSync client key false) =
        (outcome, calm store index' journal') ∧
      index'.mapping = some (index.mapping.getD Index.fixedMapping) ∧
      (index.takes maxResubmissions r.id = false →
        (∃ item, outcome = .error (.documentRejected item) ∧ item.documentId = r.id) ∧
        index'.documents = index.documents) ∧
      (index.takes maxResubmissions r.id = true →
        outcome = .ok r ∧
        index'.documents = Keyed.insert r.id (Document.ofRecord r) index.documents) := by
  obtain ⟨journal₁, ran⟩ := run_resolve_of_some found (writeRecord client)
  obtain ⟨outcome, index', journal', written, post⟩ := Rehearsal.run_calm_ends
    (writeRecord_ends client r (w := ⟨index, journal₁.events⟩) sound)
  refine ⟨outcome, index', journal', ran.trans written, ?_⟩
  cases outcome with
  | ok a =>
    obtain ⟨rfl, takes, mapping, documents⟩ := post
    exact ⟨mapping, fun refused => absurd (takes.symm.trans refused) nofun,
      fun _ => ⟨rfl, documents⟩⟩
  | error f =>
    obtain ⟨⟨item, rfl, named⟩, refused, mapping, documents⟩ := post
    exact ⟨mapping, fun _ => ⟨⟨item, rfl, named⟩, documents⟩,
      fun takes => absurd (takes.symm.trans refused) nofun⟩

theorem bulky_removes : Index.Bulky fun e => e.removes = false where
  bulk _ := rfl
  note _ _ := rfl
  pause _ := rfl

/-- A single sync asks for nothing that takes something away. -/
theorem removes_singleSync (client : Client) (key : String) (recreateSchema : Bool) :
    (singleSync client key recreateSchema).Confined fun e => e.removes = false := by
  cases recreateSchema with
  | true => trivial
  | false =>
    have asked (call : Store.Call) : (Task.store call).Confined fun e => e.removes = false :=
      Job.confined_perform rfl
    have ensured : Client.ensureSchema.Confined fun e => e.removes = false := by
      refine Task.confined_bind (Task.confined_index rfl) fun existing => ?_
      split
      · exact Task.confined_bind (Task.confined_always (Job.confined_perform rfl)) fun _ =>
          Task.confined_index rfl
      · exact Task.confined_pure _
    refine Task.confined_bind (Task.confined_bind (asked _) fun own => ?_) fun record => ?_
    · cases own with
      | some record => exact Task.confined_pure record
      | none =>
        refine Task.confined_bind (asked _) fun named => ?_
        cases named with
        | some record => exact Task.confined_pure record
        | none => exact Task.confined_fail _
    · refine Task.confined_bind ensured fun _ =>
        Task.confined_bind (bulky_removes.upsertBatch client _) fun summary => ?_
      cases summary.errors with
      | nil =>
        exact Task.confined_bind (Task.confined_index rfl) fun _ =>
          Task.confined_bind (Task.confined_always (Job.confined_perform rfl)) fun _ =>
            Task.confined_pure record
      | cons error rest => exact Task.confined_fail _

/-- A single sync refuses to recreate the index, reports a key that stands for no record, and
otherwise writes the document of the one record that the key stands for, or says that it was
refused. No other document changes, an index that exists keeps its mapping, and whatever the calls
come to, none of them takes something away. -/
theorem singleSync_touches_one (client : Client) (store : Store.Memory) (index : Memory)
    (journal : Journal) (key : String) (hstore : store.Sound) (sound : index.Sound) :
    (calm store index journal).run (singleSync client key true) =
      (.error .recreateNotAllowed, calm store index journal) ∧
    ((∀ s ∈ store.all, s.id ≠ key ∧ s.slug ≠ key) →
      (calm store index journal).run (singleSync client key false) =
        (.error (.recordNotFound key), calm store index
          { journal with calls := journal.calls ++ ["find_by_id", "find_by_slug"] })) ∧
    ((∃ s ∈ store.all, s.id = key ∨ s.slug = key) → ∃ r outcome index' journal',
      Designates store key r ∧
      (calm store index journal).run (singleSync client key false) =
        (outcome, calm store index' journal') ∧
      index'.mapping = some (index.mapping.getD Index.fixedMapping) ∧
      (Keyed.find? r.id index.rejected ≠ none ∨ maxResubmissions < index.waits r.id →
        (∃ item, outcome = .error (.documentRejected item) ∧ item.documentId = r.id) ∧
        index'.documents = index.documents) ∧
      (Keyed.find? r.id index.rejected = none ∧ index.waits r.id ≤ maxResubmissions →
        outcome = .ok r ∧
        index'.documents = Keyed.insert r.id (Document.ofRecord r) index.documents)) ∧
    ∀ (recreate : Bool) {σ : Type} (handler : Job.Handler σ) (s : σ),
      ∀ e ∈ (singleSync client key recreate).attempt.trace handler s, e.1.removes = false := by
  refine ⟨rfl, fun missing => ?_, fun present => ?_, fun recreate σ handler s => ?_⟩
  · exact run_resolve_of_none ((resolved_eq_none_iff hstore).2 missing) _
  · obtain ⟨r, found⟩ : ∃ r, resolved store key = some r := by
      refine Option.ne_none_iff_exists'.1 fun none => ?_
      obtain ⟨s, mem, named⟩ := present
      obtain ⟨other, other'⟩ := (resolved_eq_none_iff hstore).1 none s mem
      exact named.elim other other'
    obtain ⟨outcome, index', journal', ran, mapping, refused, taken⟩ :=
      run_singleSync_of_resolved client journal sound found
    rw [Memory.takes_eq_false_iff] at refused
    rw [Memory.takes_iff] at taken
    exact ⟨r, outcome, index', journal', (resolved_eq_some_iff hstore).1 found, ran, mapping,
      refused, taken⟩
  · exact (Job.ran_trace handler _ s).confined (removes_singleSync client key recreate)

/-- Two records, of which one has the id of the other as its slug. -/
def namesakes : Store.Memory :=
  (({} : Store.Memory).insert { (default : Record) with id := "a", slug := "b" }).insert
    { (default : Record) with id := "b", slug := "c" }

/-- An index in which the next three writes of a document are turned away. -/
def waiting : Memory := (({} : Memory).put { (default : Document) with id := "z" }).throttle "b" 3

/-- The id goes before the slug, and the fourth write succeeds. -/
theorem singleSync_touches_one_waiting :
    namesakes.Sound ∧ waiting.Sound ∧ ∃ r index' journal',
      (calm namesakes waiting {}).run (singleSync {} "b" false) =
        (.ok r, calm namesakes index' journal') ∧
      r.id = "b" ∧ index'.mapping = waiting.mapping ∧ index'.ids = ["b", "z"] := by
  have hstore : namesakes.Sound := (Store.Memory.sound_initial.insert _).insert _
  have sound : waiting.Sound := (Memory.sound_initial.put _).throttle "b" 3
  obtain ⟨s, mem, own⟩ : ∃ s ∈ namesakes.all, s.id = "b" := by
    refine List.any_eq_true.1 ?_ |>.imp fun s h => ⟨h.1, of_decide_eq_true h.2⟩
    decide +kernel
  obtain ⟨-, -, single, -⟩ := singleSync_touches_one {} namesakes waiting {} "b" hstore sound
  obtain ⟨r, outcome, index', journal', chosen, ran, mapping, -, taken⟩ := single ⟨s, mem, .inl own⟩
  have named : r.id = "b" := chosen.named.resolve_right fun other => other.1 s mem own
  rw [named] at taken
  obtain ⟨rfl, documents⟩ := taken ⟨by decide +kernel, by decide +kernel⟩
  refine ⟨hstore, sound, r, index', journal', ran, named, mapping, ?_⟩
  rw [Memory.ids, documents]
  rfl

end Sync

end CatalogSearch
