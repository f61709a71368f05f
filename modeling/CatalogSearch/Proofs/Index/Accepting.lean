import CatalogSearch.Proofs.Index.Sound
import CatalogSearch.Proofs.Index.Writing
import CatalogSearch.Proofs.Job.Quiet

/-!
# Indexes that take every document

An index that rejects no document and lets none wait takes all of a bulk request at once, so that a
client is done with its documents after one round. It stays so whatever is asked of it.
-/
namespace CatalogSearch.Index

namespace Memory

/-- No document is rejected and none has to wait. -/
def Accepting (m : Memory) : Prop := ∀ id, m.takes 0 id = true

variable {m : Memory}

/-- Only refusals and waits make a document fail. -/
theorem Accepting.congr {m' : Memory} (h : m.Accepting) (hrejected : m'.rejected = m.rejected)
    (hthrottled : m'.throttled = m.throttled) : m'.Accepting := by
  intro id
  refine (takes_congr hrejected ?_ 0).trans (h id)
  rw [waits, waits, hthrottled]

theorem Accepting.takes (h : m.Accepting) (again : Nat) (id : String) :
    m.takes again id = true := by
  obtain ⟨hrejected, hwaits⟩ := takes_iff.1 (h id)
  exact takes_iff.2 ⟨hrejected, Nat.le_trans hwaits (Nat.zero_le again)⟩

/-- An accepting index after it took some documents. -/
def holding (m : Memory) (documents : List Document) : Memory :=
  { m with documents := documents.foldl (fun entries d => Keyed.insert d.id d entries) m.documents }

/-- All documents of a request are taken. -/
theorem Accepting.writeAll (documents : List Document) (h : m.Accepting) :
    writeAll documents m = (documents.map fun _ => .indexed, m.holding documents) := by
  induction documents generalizing m with
  | nil => rfl
  | cons d rest ih =>
    have hrest : Accepting { m with documents := Keyed.insert d.id d m.documents } :=
      h.congr rfl rfl
    simp only [Memory.writeAll, write_of_taken (h d.id), ih hrest]
    rfl

/-- What is found after documents were taken was found before or is one of them. -/
theorem find?_holding (m : Memory) (documents : List Document) (key : String) :
    (key ∉ documents.map (·.id) ∧
      Keyed.find? key (m.holding documents).documents = Keyed.find? key m.documents) ∨
    ∃ d ∈ documents, d.id = key ∧ Keyed.find? key (m.holding documents).documents = some d := by
  induction documents generalizing m with
  | nil => exact .inl ⟨by simp, rfl⟩
  | cons d rest ih =>
    rcases ih { m with documents := Keyed.insert d.id d m.documents } with
      ⟨hrest, hsame⟩ | ⟨e, he, hkey, hfound⟩
    · by_cases hkey : d.id = key
      · refine .inr ⟨d, List.mem_cons_self, hkey, ?_⟩
        rw [← hkey] at hsame ⊢
        exact hsame.trans (Keyed.find?_insert_self d.id d m.documents)
      · refine .inl ⟨by simpa [Ne.symm hkey] using hrest, ?_⟩
        exact hsame.trans (Keyed.find?_insert_of_ne (Ne.symm hkey) d m.documents)
    · exact .inr ⟨e, List.mem_cons_of_mem d he, hkey, hfound⟩

theorem touch_of_isSome (h : m.mapping.isSome = true) : m.touch = m := by
  cases m with
  | mk mapping documents rejected throttled refreshes =>
    cases mapping with
    | none => cases h
    | some mapping => rfl

/-- A bulk request to an accepting index. -/
theorem Accepting.answer_bulk (h : m.Accepting) (hmapping : m.mapping.isSome = true)
    (documents : List Document) :
    m.answer (.bulk documents) = (.ok (documents.map fun _ => .indexed), m.holding documents) := by
  simp only [answer, touch_of_isSome hmapping, h.writeAll]

theorem Accepting.ifExists {α : Type} {value : α} {after : Memory} (h : m.Accepting)
    (hafter : after.Accepting) : (m.ifExists value after).2.Accepting := by
  unfold Memory.ifExists
  split
  · exact hafter
  · exact h

/-- An index stays accepting whatever is asked of it. -/
theorem Accepting.answer (h : m.Accepting) (call : Call) : (m.answer call).2.Accepting := by
  cases call with
  | bulk documents =>
    have htouch : m.touch.Accepting := h.congr rfl rfl
    simp only [Memory.answer, htouch.writeAll]
    exact htouch.congr rfl rfl
  | create mapping =>
    simp only [Memory.answer]
    split
    · exact h
    · exact h.congr rfl rfl
  | mapping =>
    simp only [Memory.answer]
    split <;> exact h
  | deleteDocument id =>
    simp only [Memory.answer]
    split
    · exact h.congr rfl rfl
    · exact h
  | «exists» => exact h
  | drop => exact h.ifExists (h.congr rfl rfl)
  | deleteAll => exact h.ifExists (h.congr rfl rfl)
  | search request => exact h.ifExists h
  | keywordTerms size minCount => exact h.ifExists h
  | scanFreshness => exact h.ifExists h
  | refresh => exact h.ifExists (h.congr rfl rfl)
  | count => exact h.ifExists h

theorem writeAll_mapping (documents : List Document) (m : Memory) :
    (Memory.writeAll documents m).2.mapping = m.mapping := by
  induction documents generalizing m with
  | nil => rfl
  | cons d rest ih => exact (ih (m.write d).2).trans (write_mapping d m)

/-- An index exists until it is dropped. -/
theorem isSome_mapping_answer (h : m.mapping.isSome = true) {call : Call} (hcall : call ≠ .drop) :
    (m.answer call).2.mapping.isSome = true := by
  obtain ⟨mapping, hmapping⟩ := Option.isSome_iff_exists.1 h
  cases call with
  | bulk documents =>
    simp only [Memory.answer, writeAll_mapping]
    rfl
  | create mapping => simp only [Memory.answer, hmapping, Option.isSome_some]
  | mapping => simp only [Memory.answer, hmapping, Option.isSome_some]
  | deleteDocument id =>
    simp only [Memory.answer]
    split <;> exact h
  | drop => exact absurd rfl hcall
  | _ => simp only [Memory.answer, ifExists, hmapping, Option.isSome_some]

/-- An index as it can come about that exists and takes every document. -/
structure Ready (m : Memory) : Prop where
  sound : m.Sound
  mapping : m.mapping.isSome = true
  accepting : m.Accepting

/-- An index stays ready until it is dropped. -/
theorem Ready.answer (h : m.Ready) (call : Call) (hcall : call ≠ .drop) :
    (m.answer call).2.Ready :=
  ⟨h.sound.answer call, isSome_mapping_answer h.mapping hcall, h.accepting.answer call⟩

end Memory

/-- A round of which every document is taken. -/
theorem tally_of_taken (again : Bool) (documents : List Document) :
    tally again (documents.zip (documents.map fun _ => .indexed)) =
      ⟨[], documents.length, []⟩ := by
  induction documents with
  | nil => rfl
  | cons d rest ih => simp only [List.map_cons, List.zip_cons_cons, tally, ih, List.length_cons]

/-- A client is done with its documents after one request that takes them all. -/
theorem Client.upsertBatch_ends_of_taken {ω : Type} {sem : Semantics ω} {good : ω → Prop}
    {bad : Failure → ω → Prop} {w : ω} (client : Client) {documents : List Document}
    (bulk : documents ≠ [] → (Task.index (.bulk documents)).Ends sem w
      (fun outcomes w' => outcomes = documents.map (fun _ => .indexed) ∧ good w') bad)
    (none : documents = [] → good w) :
    (client.upsertBatch documents).Ends sem w (fun _ => good) bad := by
  change (client.upsertRounds {} documents (2 + 1)).Ends sem w (fun _ => good) bad
  unfold upsertRounds
  split
  · next hempty => exact none (List.isEmpty_iff.1 hempty)
  · next hempty =>
    have hsubmit : (submit documents true).Ends sem w
        (fun round w' => round.throttled = [] ∧ good w') bad := by
      unfold submit
      refine (bulk fun h => hempty (List.isEmpty_iff.2 h)).bind ?_ fun _ _ h => h
      intro outcomes w' h
      obtain ⟨rfl, hgood⟩ := h
      rw [if_neg (by simp), tally_of_taken]
      exact ⟨rfl, hgood⟩
    refine hsubmit.bind (fun round w' h => ?_) fun _ _ h => h
    obtain ⟨hnone, hgood⟩ := h
    dsimp only
    rw [hnone]
    exact hgood

end CatalogSearch.Index
