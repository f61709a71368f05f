import CatalogSearch.Proofs.Index.Schema
import CatalogSearch.Proofs.Index.Settled

/-!
# Operations on an index in memory

An index in memory starts with a mapping or without one, and operations of every kind follow in any
order. Whatever they were, every document stands under its own id, there is none while the index
does not exist, and a request that fails changes nothing. A bulk request answers for each of its
documents in its place, also where several have one id, and writes those that it calls indexed.
Scans, counts and searches agree on the ids.
-/
namespace CatalogSearch.Index.Memory

variable {m : Memory}

theorem ifExists_of_error {α : Type} {value : α} {after : Memory} {f : Failure}
    (failed : (m.ifExists value after).1 = .error f) : (m.ifExists value after).2 = m := by
  unfold ifExists at failed ⊢
  split at failed
  · cases failed
  · rfl

/-- A request that fails changes nothing. -/
theorem answer_of_error {call : Call} {f : Failure} (failed : (m.answer call).1 = .error f) :
    (m.answer call).2 = m := by
  cases call with
  | «exists» => cases failed
  | create mapping =>
    simp only [answer] at failed ⊢
    split at failed
    · rfl
    · cases failed
  | drop => exact ifExists_of_error failed
  | mapping =>
    simp only [answer] at failed ⊢
    split at failed
    · cases failed
    · rfl
  | bulk documents => cases failed
  | deleteAll => exact ifExists_of_error failed
  | deleteDocument id =>
    simp only [answer] at failed ⊢
    split at failed
    · cases failed
    · next absent => rw [if_neg absent]
  | search request => exact ifExists_of_error failed
  | keywordTerms size minCount => exact ifExists_of_error failed
  | scanFreshness => exact ifExists_of_error failed
  | refresh => exact ifExists_of_error failed
  | count => exact ifExists_of_error failed

/-- What becomes of a document if a request submitted `earlier` others with its id before it. -/
def outcomeAfter (m : Memory) (id : String) (earlier : Nat) : ItemOutcome :=
  match Keyed.find? id m.rejected with
  | some error => .failed error
  | none => if earlier < m.waits id then .failed (throttleError id) else .indexed

theorem write_fst_eq_outcomeAfter (m : Memory) (d : Document) :
    (m.write d).1 = m.outcomeAfter d.id 0 := by
  rw [write_fst, outcomeAfter]
  cases Keyed.find? d.id m.rejected with
  | some error => rfl
  | none =>
    by_cases now : m.waits d.id = 0
    · simp [now]
    · simp [now, Nat.pos_of_ne_zero now]

/-- A document that was submitted counts for those with its id that follow. -/
theorem outcomeAfter_write (m : Memory) (d : Document) (id : String) (earlier : Nat) :
    (m.write d).2.outcomeAfter id earlier =
      m.outcomeAfter id (earlier + if d.id = id then 1 else 0) := by
  have submitted := submitted_write d m
  rw [outcomeAfter, outcomeAfter, submitted.rejected]
  cases rejected : Keyed.find? id m.rejected with
  | some error => rfl
  | none =>
    by_cases same : d.id = id
    · rw [submitted.waits_of_mem id (by simp [same]) rejected, if_pos same]
      simp only [Nat.zero_add, Nat.lt_sub_iff_add_lt]
    · rw [submitted.waits_of_not_mem (by simpa using Ne.symm same), if_neg same, Nat.add_zero]

/-- The outcome at each place is that of the document there, after those before it. -/
theorem getElem?_writeAll (documents : List Document) (m : Memory) (i : Nat) :
    (writeAll documents m).1[i]? = documents[i]?.map fun d =>
      m.outcomeAfter d.id ((documents.take i).countP fun e => e.id = d.id) := by
  induction documents generalizing m i with
  | nil => simp [writeAll]
  | cons d rest ih =>
    cases i with
    | zero => exact congrArg some (write_fst_eq_outcomeAfter m d)
    | succ i =>
      refine (ih (m.write d).2 i).trans ?_
      simp only [List.getElem?_cons_succ, List.take_succ_cons, List.countP_cons,
        outcomeAfter_write, decide_eq_true_eq]

/-- The documents that a bulk request wrote by its outcomes, in their order. -/
def written (documents : List Document) (outcomes : List ItemOutcome) : List Document :=
  ((documents.zip outcomes).filter fun s => s.2 = .indexed).map (·.1)

theorem written_cons (d : Document) (documents : List Document) (outcome : ItemOutcome)
    (outcomes : List ItemOutcome) : written (d :: documents) (outcome :: outcomes) =
      (if outcome = .indexed then [d] else []) ++ written documents outcomes := by
  by_cases indexed : outcome = .indexed <;> simp [written, indexed]

/-- A document is put under its id just if its outcome says so. -/
theorem documents_write (m : Memory) (d : Document) : (m.write d).2.documents =
    if (m.write d).1 = .indexed then Keyed.insert d.id d m.documents else m.documents := by
  unfold write
  split
  · simp
  · split <;> simp

/-- Under each id stands the last document that was written with it, or else what stood there
before. -/
theorem find?_writeAll (documents : List Document) (m : Memory) (key : String) :
    Keyed.find? key (writeAll documents m).2.documents =
      ((written documents (writeAll documents m).1).reverse.find? fun d => d.id = key).or
        (Keyed.find? key m.documents) := by
  induction documents generalizing m with
  | nil => rfl
  | cons d rest ih =>
    have later : Keyed.find? key (writeAll (d :: rest) m).2.documents = _ := ih (m.write d).2
    have first : Keyed.find? key (m.write d).2.documents =
        ((if (m.write d).1 = .indexed then [d] else []).find? fun d => d.id = key).or
          (Keyed.find? key m.documents) := by
      rw [documents_write]
      split
      · rw [Keyed.find?_insert, List.find?_singleton]
        by_cases same : d.id = key <;> simp [same]
      · rfl
    have outcomes : (writeAll (d :: rest) m).1 =
        (m.write d).1 :: (writeAll rest (m.write d).2).1 := rfl
    have short : (if (m.write d).1 = .indexed then [d] else []).reverse =
        if (m.write d).1 = .indexed then [d] else [] := by
      split <;> rfl
    rw [later, first, outcomes, written_cons, List.reverse_append, List.find?_append, short,
      Option.or_assoc]

/-- What a bulk request tells of its documents, and what it does with them. -/
structure Accounted (m : Memory) (documents : List Document) (outcomes : List ItemOutcome)
    (m' : Memory) : Prop where
  /-- There is one outcome for each document, and a refusal names it. -/
  named : Named documents outcomes
  /-- Each outcome belongs to the document in its place; if some before it have the same id, its
  wait is shorter by as many. -/
  placed : ∀ i d, documents[i]? = some d → outcomes[i]? =
    some (m.outcomeAfter d.id ((documents.take i).countP fun e => e.id = d.id))
  /-- The documents called indexed, and no others, replace in their order what stood under their
  ids. -/
  overwritten : ∀ key, Keyed.find? key m'.documents =
    ((written documents outcomes).reverse.find? fun d => d.id = key).or
      (Keyed.find? key m.documents)

theorem accounted_bulk (sound : m.Sound) (documents : List Document) :
    ∃ outcomes, (m.answer (.bulk documents)).1 = .ok outcomes ∧
      Accounted m documents outcomes (m.answer (.bulk documents)).2 := by
  have refusals (r) (mem : r ∈ m.touch.rejected) := (sound.refusals r mem).1
  refine ⟨(writeAll documents m.touch).1, rfl, (writeAll_named documents refusals).1, ?_,
    find?_writeAll documents m.touch⟩
  intro i d at_i
  rw [getElem?_writeAll, at_i]
  rfl

/-- What an existing index tells of its documents gives the same ids, each once. -/
structure Lists (m : Memory) (ids : List String) : Prop where
  distinct : ids.Nodup
  scan : ∃ pairs, m.answer .scanFreshness = (.ok pairs, m) ∧ pairs.map (·.1) = ids
  count : m.answer .count = (.ok ids.length, m)
  /-- A search without query and filters that asks for as many hits as there are documents finds
  them all, or those that are left of them if it starts later. -/
  search : ∀ sort, ∃ ranked : List Document, (ranked.map (·.id)).Perm ids ∧
    ∀ size start, ids.length ≤ size → m.answer (.search ⟨none, {}, sort, size, start⟩) =
      (.ok ⟨ids.length, ranked.drop start⟩, m)

/-- The ids that a sound index keeps its documents under are their own. -/
theorem Sound.map_id_values (sound : m.Sound) : (Keyed.values m.documents).map (·.id) = m.ids := by
  rw [Keyed.values, List.map_map]
  exact List.map_congr_left sound.keyed

/-- Without a query and without filters, every document is found, whatever the order. -/
theorem searchIn_all (sort : SortMode) (documents : List Document) :
    ∃ ranked : List Document, ranked.Perm documents ∧
      ∀ size start, documents.length ≤ size →
        searchIn ⟨none, {}, sort, size, start⟩ documents =
          ⟨documents.length, ranked.drop start⟩ := by
  -- Neither the size nor the start of a search matters for the ranking.
  let ranking := rankedHits ⟨none, {}, sort, 0, 0⟩ documents
  have all : hits ⟨none, {}, sort, 0, 0⟩ documents = documents.map fun d => (0, d) := by
    have accepted : documents.filter (Filters.accept {}) = documents :=
      List.filter_eq_self.2 fun _ _ => rfl
    simp [hits, accepted]
  have ranked : ranking.Perm (documents.map fun d => (0, d)) := by
    rw [← all]
    exact List.mergeSort_perm _ _
  have counted : ranking.length = documents.length := by
    rw [ranked.length_eq, List.length_map]
  refine ⟨ranking.map (·.2), ?_, fun size start enough => ?_⟩
  · refine (ranked.map (·.2)).trans (.of_eq ?_)
    rw [List.map_map]
    exact List.map_id documents
  · have short : (ranking.drop start).length ≤ size := by
      rw [List.length_drop]
      omega
    change SearchResult.mk ranking.length (((ranking.drop start).take size).map (·.2)) = _
    rw [counted, List.take_of_length_le short, List.map_drop]

theorem Sound.lists (sound : m.Sound) (present : m.mapping.isSome = true) : Lists m m.ids where
  distinct := Keyed.nodup_keys sound.ascending
  scan := by
    refine ⟨_, ifExists_of_isSome present _ _, ?_⟩
    rw [List.map_map]
    exact sound.map_id_values
  count := by
    have counted : m.ids.length = m.documents.length := List.length_map _
    rw [counted]
    exact ifExists_of_isSome present _ _
  search sort := by
    obtain ⟨ranked, same, found⟩ := searchIn_all sort (Keyed.values m.documents)
    rw [← sound.map_id_values]
    refine ⟨ranked, same.map _, fun size start enough => ?_⟩
    rw [List.length_map] at enough ⊢
    rw [← found size start enough]
    exact ifExists_of_isSome present _ _

/-- What can be done to an index in memory. -/
inductive Operation where
  /-- Put a document in, whatever is rejected or throttled. -/
  | put (d : Document)
  /-- Reject every write of a document from now on. -/
  | reject (id errorType reason : String)
  /-- Turn away the next writes of a document. -/
  | throttle (id : String) (times : Nat)
  /-- Make a request. -/
  | ask (call : Call)

def apply (m : Memory) : Operation → Memory
  | .put d => m.put d
  | .reject id errorType reason => m.reject id errorType reason
  | .throttle id times => m.throttle id times
  | .ask call => (m.answer call).2

/-- The index after some operations, from one that has a mapping or does not exist. -/
def after (mapping : Option Json) (operations : List Operation) : Memory :=
  operations.foldl apply { mapping }

theorem sound_opened (mapping : Option Json) : Sound { mapping } :=
  ⟨.nil, by simp, fun _ => rfl, by simp⟩

theorem Sound.apply (sound : m.Sound) (operation : Operation) : (m.apply operation).Sound := by
  cases operation with
  | put d => exact sound.put d
  | reject id errorType reason => exact sound.reject id errorType reason
  | throttle id times => exact sound.throttle id times
  | ask call => exact sound.answer call

theorem Sound.foldl_apply (sound : m.Sound) (operations : List Operation) :
    (operations.foldl Memory.apply m).Sound := by
  induction operations generalizing m with
  | nil => exact sound
  | cons operation rest ih => exact ih (sound.apply operation)

/-- What holds of an index in memory between any two operations. -/
structure Consistent (m : Memory) : Prop where
  /-- Every document stands under its own id. -/
  keyed : ∀ e ∈ m.documents, e.2.id = e.1
  /-- An index that does not exist holds no documents. -/
  absent : m.mapping = none → m.documents = []
  /-- A request that fails leaves everything as it was. -/
  unchanged : ∀ call f, (m.answer call).1 = .error f → (m.answer call).2 = m
  /-- A bulk request always succeeds and accounts for all of its documents. -/
  bulk : ∀ documents, ∃ outcomes, (m.answer (.bulk documents)).1 = .ok outcomes ∧
    Accounted m documents outcomes (m.answer (.bulk documents)).2
  /-- All requests that list the documents list the same. -/
  lists : m.mapping.isSome = true → Lists m m.ids

theorem Sound.consistent (sound : m.Sound) : Consistent m where
  keyed := sound.keyed
  absent := sound.absent
  unchanged _ _ failed := answer_of_error failed
  bulk := accounted_bulk sound
  lists := sound.lists

/-- Whatever was done to an index in memory, it is consistent. -/
theorem consistent_after (mapping : Option Json) (operations : List Operation) :
    Consistent (after mapping operations) :=
  ((sound_opened mapping).foldl_apply operations).consistent

end CatalogSearch.Index.Memory
