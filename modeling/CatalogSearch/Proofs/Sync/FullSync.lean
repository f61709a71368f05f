import CatalogSearch.Proofs.Index.Schema
import CatalogSearch.Proofs.Sync.Pages

/-!
# Full syncs
-/
namespace CatalogSearch

open Index (Client Wrote)

variable {store : Store.Memory} {faulty : Prop} {w : Scene}

namespace Sync

/-- The number of documents before a run; an index that does not exist has none. -/
theorem countOrZero_ends (client : Client) (sound : w.index.Sound) :
    (countOrZero client).Ends (inMemory store faulty) w
      (fun n w' => n = w.index.documents.length ∧ w' = w) (fun _ _ => faulty) := by
  unfold countOrZero
  refine Task.ends_bind.2 (Task.ends_always.2 ?_)
  cases hmapping : w.index.mapping with
  | some mapping =>
    have hanswer : w.index.answer .count = (.ok w.index.documents.length, w.index) :=
      Index.Memory.ifExists_of_isSome (by rw [hmapping]; rfl) _ _
    refine (client.steady_ends "count" (Index.lookup_ends hanswer)).attempt ?_ ?_
    · intro n w' h
      obtain ⟨hn, rfl⟩ := h
      exact ⟨(Except.ok.inj hn).symm, rfl⟩
    · intro f w' h
      obtain ⟨hf | ⟨hfaulty, hf⟩, -⟩ := h
      · cases hf
      · dsimp only
        rw [hf]
        exact hfaulty
  | none =>
    have hanswer : w.index.answer .count = (.error Index.Memory.missing, w.index) := by
      simp only [Index.Memory.answer, Index.Memory.ifExists, hmapping]
    refine (client.steady_ends "count" (Index.lookup_ends hanswer)).attempt ?_ ?_
    · intro n w' h
      obtain ⟨hn, -⟩ := h
      cases hn
    · intro f w' h
      obtain ⟨hf | ⟨hfaulty, hf⟩, rfl⟩ := h
      · obtain rfl := Except.error.inj hf
        exact ⟨by rw [sound.absent hmapping]; rfl, rfl⟩
      · dsimp only
        rw [hf]
        exact hfaulty

/-- However often it is tried, recreating the index leaves it with its mapping and nothing else. -/
theorem recreate_ends (client : Client) (sound : w.index.Sound) :
    (recreate client).Ends (inMemory store faulty) w
      (fun _ w' => w'.index.mapping.isSome = true ∧ w'.index.documents = [] ∧ w.Alike w')
      (fun _ _ => faulty) := by
  have each (w' : Scene) (h : w'.index.Sound ∧ w.Alike w') :
      Client.recreateSchema.Ends (inMemory store faulty) w'
        (fun _ w'' => w''.index.mapping.isSome = true ∧ w''.index.documents = [] ∧ w.Alike w'')
        (fun _ w'' => faulty ∧ w''.index.Sound ∧ w.Alike w'') := by
    refine ((Client.recreateSchema_ends h.1).sound h.1).mono ?_ ?_
    · intro _ w'' h
      obtain ⟨⟨hmapping, hempty, halike⟩, -⟩ := h
      exact ⟨hmapping, hempty, h.2.trans halike⟩
    · intro f w'' h
      obtain ⟨⟨hfaulty, halike⟩, hsound⟩ := h
      exact ⟨hfaulty, hsound, h.2.trans halike⟩
  unfold recreate
  refine Task.ends_bind.2 (Task.ends_always.2 (Job.ends_log ?_))
  refine (client.withTimeoutRetry_ends "recreate_schema" each ⟨sound, .refl w⟩).withContext.bind
    ?_ fun _ _ h => h.1
  intro _ w' h
  obtain ⟨hsome, hempty, halike⟩ := h
  obtain ⟨mapping, hmapping⟩ := Option.isSome_iff_exists.1 hsome
  have hanswer : w'.index.answer .mapping = (.ok mapping, w'.index) := by
    simp only [Index.Memory.answer, hmapping]
  have hlookup : Client.hasExactKeywordField.Ends (inMemory store faulty) w'
      (fun _ w'' => True ∧ w'' = w') (fun _ w'' => faulty ∧ w'' = w') :=
    (Index.answered_ends hanswer).bind (fun _ _ h => ⟨trivial, h.2⟩) fun _ _ h => h
  refine (client.steady_ends "get_mapping" hlookup).bind ?_ fun _ _ h => h.1
  intro exact w' h
  obtain ⟨-, rfl⟩ := h
  cases exact with
  | true => exact ⟨hsome, hempty, halike⟩
  | false =>
    exact Task.ends_bind.2 (Task.ends_always.2 (Job.ends_log ⟨hsome, hempty, halike⟩))

/-- However often it is tried, emptying the index leaves it without documents. -/
theorem empty_ends (client : Client) :
    (empty client).Ends (inMemory store faulty) w
      (fun _ w' => w'.index.mapping.isSome = true ∧ w'.index.documents = [] ∧ w.Alike w')
      (fun _ _ => faulty) := by
  have eachSchema (w' : Scene) (h : w.Alike w') :
      Client.ensureSchema.Ends (inMemory store faulty) w'
        (fun _ w'' => w''.index.mapping.isSome = true ∧ w.Alike w'')
        (fun _ w'' => faulty ∧ w.Alike w'') :=
    Client.ensureSchema_ends.mono (fun _ _ h' => ⟨h'.1, h.trans h'.2.2⟩)
      fun _ _ h' => ⟨h'.1, h.trans h'.2.2⟩
  have eachDelete (w' : Scene) (h : w'.index.mapping.isSome = true ∧ w.Alike w') :
      Client.deleteAllDocuments.Ends (inMemory store faulty) w'
        (fun _ w'' => w''.index.mapping.isSome = true ∧ w''.index.documents = [] ∧ w.Alike w'')
        (fun _ w'' => faulty ∧ w''.index.mapping.isSome = true ∧ w.Alike w'') :=
    (Client.deleteAllDocuments_ends h.1).mono
      (fun _ _ h' => ⟨h'.1, h'.2.1, h.2.trans h'.2.2⟩)
      fun _ _ h' => ⟨h'.1, h'.2.1, h.2.trans h'.2.2⟩
  unfold empty
  refine Task.ends_bind.2 (Task.ends_always.2 (Job.ends_log ?_))
  refine (client.withTimeoutRetry_ends "ensure_schema" eachSchema (.refl w)).withContext.bind
    ?_ fun _ _ h => h.1
  intro _ w' h
  exact (client.withTimeoutRetry_ends "delete_all" eachDelete h).withContext.bind
    (fun _ _ h => h) fun _ _ h => h.1

/-- What a full sync comes to. Faults may change which documents are refused, and nothing else. -/
structure Synced (faulty : Prop) (store : Store.Memory) (startPage perPage : Nat) (w : Scene)
    (report : SyncReport) (w' : Scene) : Prop where
  storeCount : report.storeCount = store.records.length
  indexBefore : report.indexBefore = w.index.documents.length
  indexAfter : report.indexAfter = w'.index.documents.length
  pages : report.pages = pageCount store.records.length perPage + 1 - max startPage 1
  events : ∃ counts : List (Nat × Nat), counts.length = report.pages ∧
    (counts.map (·.1)).sum = report.succeeded ∧
    (counts.map (·.2)).sum = report.errors.length ∧
    w'.events = w.events ++
      .syncStarted store.records.length (pageCount store.records.length perPage) ::
        pageEvents (pageCount store.records.length perPage) (max startPage 1) counts
  distinct : (report.errors.map (·.documentId)).Nodup
  known : ∀ id ∈ report.errors.map (·.documentId),
    id ∈ (store.fromPage startPage perPage).map (·.id)
  total : report.succeeded + report.errors.length = (store.fromPage startPage perPage).length
  documents : w'.index.documents =
    ((store.fromPage startPage perPage).filter fun r =>
      r.id ∉ report.errors.map (·.documentId)).map fun r => (r.id, Document.ofRecord r)
  refused_iff : ¬ faulty → ∀ r ∈ store.fromPage startPage perPage,
    (r.id ∈ report.errors.map (·.documentId) ↔
      w.index.takes Index.maxResubmissions r.id = false)

/-- An index without documents holds exactly what was written to it. -/
theorem documents_of_wrote {m m' : Index.Memory} {records : List Record} {succeeded : Nat}
    {refused : List String} (ascending : records.Pairwise fun a b => a.id < b.id)
    (hempty : m.documents = []) (sound : m'.Sound)
    (h : Wrote faulty (records.map Document.ofRecord) succeeded refused m m') :
    m'.documents =
      (records.filter fun r => r.id ∉ refused).map fun r => (r.id, Document.ofRecord r) := by
  have hascending : Keyed.Ascending
      ((records.filter fun r => r.id ∉ refused).map fun r => (r.id, Document.ofRecord r)) :=
    List.pairwise_map.2 (ascending.sublist List.filter_sublist)
  refine Keyed.eq_of_find?_eq sound.ascending hascending fun key => ?_
  by_cases hkey : ∃ r ∈ records, r.id ∉ refused ∧ r.id = key
  · obtain ⟨r, hr, hrefused, rfl⟩ := hkey
    rw [show Keyed.find? r.id m'.documents = some (Document.ofRecord r) from
      h.taken (Document.ofRecord r) (List.mem_map_of_mem hr) hrefused]
    refine (Keyed.find?_of_mem hascending (e := (r.id, Document.ofRecord r)) ?_).symm
    exact List.mem_map_of_mem (List.mem_filter.2 ⟨hr, decide_eq_true hrefused⟩)
  · have hnone : Keyed.find? key
        ((records.filter fun r => r.id ∉ refused).map fun r => (r.id, Document.ofRecord r)) =
          none := by
      refine Keyed.find?_eq_none_iff.2 fun hin => hkey ?_
      simp only [Keyed.keys, List.map_map, List.mem_map, List.mem_filter, decide_eq_true_eq] at hin
      obtain ⟨r, ⟨hr, hrefused⟩, rfl⟩ := hin
      exact ⟨r, hr, hrefused, rfl⟩
    rw [hnone, h.kept key fun hin => ?_, hempty]
    · rfl
    · rw [Document.ids_ofRecord] at hin
      obtain ⟨r, hr, rfl⟩ := List.mem_map.1 hin
      exact Decidable.byContradiction fun hrefused => hkey ⟨r, hr, hrefused, rfl⟩

/-- Either way of clearing the index leaves it with its mapping and without documents. -/
theorem cleared_ends (client : Client) (recreateSchema : Bool) (sound : w.index.Sound)
    (next : Bool → Task SyncReport) {good : SyncReport → Scene → Prop}
    (hnext : ∀ exact w', w'.index.Sound → w'.index.mapping.isSome = true →
      w'.index.documents = [] → w.Alike w' →
      (next exact).Ends (inMemory store faulty) w' good fun _ _ => faulty) :
    (if recreateSchema = true then recreate client >>= next
      else do
        empty client
        pure true >>= next).Ends (inMemory store faulty) w good fun _ _ => faulty := by
  cases recreateSchema with
  | true =>
    refine ((recreate_ends client sound).sound sound).bind ?_ fun _ _ h => h.1
    intro exact w' h
    obtain ⟨⟨hmapping, hempty, halike⟩, hsound⟩ := h
    exact hnext exact w' hsound hmapping hempty halike
  | false =>
    refine ((empty_ends client).sound sound).bind ?_ fun _ _ h => h.1
    intro _ w' h
    obtain ⟨⟨hmapping, hempty, halike⟩, hsound⟩ := h
    exact hnext true w' hsound hmapping hempty halike

/-- A run that writes every page to a cleared index comes to what is said of a full sync. -/
theorem Synced.of_wrote {startPage perPage : Nat} {recreateSchema exact : Bool}
    {cleared m : Index.Memory} {counts : List (Nat × Nat)} {errors : List ItemError} {w' : Scene}
    (hstore : store.Sound) (sound : m.Sound) (hempty : cleared.documents = [])
    (htakes : ∀ id, cleared.takes Index.maxResubmissions id =
      w.index.takes Index.maxResubmissions id)
    (hcounts : counts.length = pageCount store.records.length perPage + 1 - max startPage 1)
    (hrefused : (counts.map (·.2)).sum = errors.length)
    (hwrote : Wrote faulty ((store.fromPage startPage perPage).map Document.ofRecord)
      (counts.map (·.1)).sum (errors.map (·.documentId)) cleared m)
    (hdocuments : w'.index.documents = m.documents)
    (hevents : w'.events = w.events ++
      .syncStarted store.records.length (pageCount store.records.length perPage) ::
        pageEvents (pageCount store.records.length perPage) (max startPage 1) counts) :
    Synced faulty store startPage perPage w
      ⟨store.records.length, w.index.documents.length, w'.index.documents.length, recreateSchema,
        exact, pageCount store.records.length perPage + 1 - max startPage 1,
        (counts.map (·.1)).sum, errors⟩ w' := by
  have hascend : (store.fromPage startPage perPage).Pairwise fun a b => a.id < b.id :=
    hstore.ids_ascend.sublist (List.drop_sublist _ _)
  constructor
  case storeCount => rfl
  case indexBefore => rfl
  case indexAfter => rfl
  case pages => rfl
  case events => exact ⟨counts, hcounts, rfl, hrefused, hevents⟩
  case distinct => exact hwrote.distinct
  case known =>
    rw [← Document.ids_ofRecord]
    exact hwrote.known
  case total => simpa using hwrote.total
  case documents =>
    rw [hdocuments]
    exact documents_of_wrote hascend hempty sound hwrote
  case refused_iff =>
    intro hcalm r hr
    rw [← htakes r.id]
    exact hwrote.refused_iff hcalm (Document.ofRecord r) (List.mem_map_of_mem hr)

/-- A full sync of a store brings the index to the records from its first page on. -/
theorem fullSync_ends (client : Client) (options : SyncOptions) (startPage : Nat) {perPage : Nat}
    (recreateSchema : Bool) (hperPage : 1 ≤ perPage) (hstore : store.Sound)
    (fits : store.records.length ≤ Store.wordLimit) (sound : w.index.Sound) :
    (fullSync client options startPage perPage recreateSchema).Ends (inMemory store faulty) w
      (Synced faulty store startPage perPage w) (fun _ _ => faulty) := by
  unfold fullSync
  rw [if_neg (by omega)]
  dsimp only
  refine Task.ends_bind.2 (Task.ends_always.2 (Job.ends_log ?_))
  refine (countOrZero_ends client sound).bind ?_ fun _ _ h => h
  intro before w' h
  obtain ⟨rfl, rfl⟩ := h
  refine cleared_ends client recreateSchema sound _ fun exact w₁ hsound₁ hmapping₁ hempty₁
    halike₁ => ?_
  have hcount : store.answer .countAll = .ok store.records.length := rfl
  refine (Task.ends_store hcount).withContext.bind ?_ fun _ _ h => h.1
  intro storeCount w₂ h
  obtain ⟨rfl, rfl⟩ := h
  refine Task.ends_bind.2 (Task.ends_always.2 (Job.ends_report ?_))
  refine Task.ends_bind.2 (Task.ends_always.2 (Job.ends_log ?_))
  have hstarted : (Scene.mk w₂.index (w₂.events ++ [.syncStarted store.records.length
      (pageCount store.records.length perPage)])).index.Sound := hsound₁
  refine ((syncPages_ends client options hstore fits perPage _ _ (Nat.le_max_right startPage 1) {}
    hstarted).sound hstarted).bind ?_ fun _ _ h => h.1
  intro totals w₃ h
  obtain ⟨⟨counts, errors, rfl, hcounts, hrefused, hevents₃, hwrote⟩, hsound₃⟩ := h
  rw [store.pages_all startPage hperPage] at hwrote
  have hmapping₃ : w₃.index.mapping.isSome = true := by
    rw [hwrote.mapping hmapping₁]
    exact hmapping₁
  refine Task.ends_bind.2 (Task.ends_always.2 (Job.ends_log ?_))
  refine (client.refresh_ends "refresh" hmapping₃).withContext.bind ?_ fun _ _ h => h
  intro _ w₄ h
  obtain ⟨hdocuments₄, hmapping₄, halike₄⟩ := h
  have hanswer : w₄.index.answer .count = (.ok w₄.index.documents.length, w₄.index) :=
    Index.Memory.ifExists_of_isSome hmapping₄ _ _
  refine (client.steady_ends "count" (Index.answered_ends hanswer)).bind ?_ fun _ _ h => h.1
  intro after w₅ h
  obtain ⟨rfl, rfl⟩ := h
  refine Task.ends_bind.2 (Task.ends_always.2 (Job.ends_log ?_))
  refine Task.ends_bind.2 (Task.ends_always.2 (Job.ends_log ?_))
  have hevents : w₅.events = w'.events ++
      .syncStarted store.records.length (pageCount store.records.length perPage) ::
        pageEvents (pageCount store.records.length perPage) (max startPage 1) counts := by
    rw [halike₄.events, hevents₃, halike₁.events, List.append_assoc]
    rfl
  simp only [Nat.zero_add, List.nil_append]
  exact .of_wrote hstore hsound₃ hempty₁ (halike₁.takes Index.maxResubmissions) hcounts hrefused
    hwrote hdocuments₄ hevents

end Sync

end CatalogSearch
