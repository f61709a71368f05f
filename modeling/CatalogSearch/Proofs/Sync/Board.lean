import CatalogSearch.Proofs.Index.Accepting
import CatalogSearch.Proofs.Index.Schema
import CatalogSearch.Proofs.Job.Quiet
import CatalogSearch.Proofs.Job.Sharing
import CatalogSearch.Proofs.Rehearsal.Struck
import CatalogSearch.Proofs.Store.Pages

/-!
# An index that runs share

Several runs on one store and one index keep to few requests: they write only documents of records,
delete only what has no record, and empty the index. Once it has been emptied, it never holds
anything but documents of records, and what a run has found or put there since it emptied the index
itself remains until another run empties it again.
-/
namespace CatalogSearch

open Index (Memory)

/-- The documents of the records of a store, under their ids. -/
def Store.Memory.documents (store : Store.Memory) : List (String × Document) :=
  store.records.map fun e => (e.1, Document.ofRecord e.2)

theorem Store.Memory.find?_documents (store : Store.Memory) (key : String) :
    Keyed.find? key store.documents = (Keyed.find? key store.records).map Document.ofRecord :=
  Keyed.find?_map Document.ofRecord key store.records

namespace Sync

/-- An index that runs share, and the run that emptied it last. -/
structure Board where
  index : Memory
  emptier : Option Nat

namespace Board

/-- How an effect of a run is answered and what it does. -/
def act (store : Store.Memory) (i : Nat) : Job.Handler Board := fun effect b =>
  ((Rehearsal.answering store effect b.index).1,
    ⟨(Rehearsal.answering store effect b.index).2,
      match effect with
      | .index .deleteAll => some i
      | _ => b.emptier⟩)

/-- The effects that runs keep to. -/
def Allowed (store : Store.Memory) : Effect → Prop
  | .index (.bulk documents) =>
    ∀ d ∈ documents, Keyed.find? d.id store.documents = some d
  | .index (.deleteDocument id) => Keyed.find? id store.documents = none
  | .index (.create _) => False
  | .index .drop => False
  | _ => True

/-- What holds of the index between two requests: once it has been emptied, it holds nothing but
documents of records. -/
structure Valid (store : Store.Memory) (runs : Nat) (b : Board) : Prop where
  ready : b.index.Ready
  known : ∀ i, b.emptier = some i → i < runs
  fresh : b.emptier ≠ none → ∀ key, Keyed.find? key b.index.documents = none ∨
    Keyed.find? key b.index.documents = Keyed.find? key store.documents

/-- What a run relies on while others take their turns: as long as no other run empties the index,
what is as in the store remains. -/
structure Relies (store : Store.Memory) (i : Nat) (b b' : Board) : Prop where
  emptied : b.emptier ≠ none → b'.emptier ≠ none
  emptier : b'.emptier = some i → b.emptier = some i
  kept : b'.emptier = some i → ∀ key,
    Keyed.find? key b.index.documents = Keyed.find? key store.documents →
      Keyed.find? key b'.index.documents = Keyed.find? key store.documents

variable {store : Store.Memory} {runs i j : Nat} {b b' b'' : Board}

theorem Relies.refl (store : Store.Memory) (i : Nat) (b : Board) : Relies store i b b :=
  ⟨id, id, fun _ _ => id⟩

theorem Relies.trans (h : Relies store i b b') (h' : Relies store i b' b'') :
    Relies store i b b'' where
  emptied hb := h'.emptied (h.emptied hb)
  emptier hb := h.emptier (h'.emptier hb)
  kept hb key hkey := h'.kept hb key (h.kept (h'.emptier hb) key hkey)

/-- Unless it empties the index, a request that runs keep to leaves what is under a key, or brings
it to what the store has. -/
theorem find?_answer {m : Memory} (ready : m.Ready) {call : Index.Call}
    (hallowed : Allowed store (.index call)) (hcall : call ≠ .deleteAll) (key : String) :
    Keyed.find? key (m.answer call).2.documents = Keyed.find? key m.documents ∨
    Keyed.find? key (m.answer call).2.documents = Keyed.find? key store.documents := by
  cases call with
  | deleteAll => exact absurd rfl hcall
  | create mapping => exact hallowed.elim
  | drop => exact hallowed.elim
  | bulk documents =>
    rw [ready.accepting.answer_bulk ready.mapping]
    rcases Memory.find?_holding m documents key with ⟨-, hsame⟩ | ⟨d, hd, rfl, hfound⟩
    · exact .inl hsame
    · exact .inr (hfound.trans (hallowed d hd).symm)
  | deleteDocument id =>
    simp only [Memory.answer]
    split
    · by_cases hkey : key = id
      · subst hkey
        exact .inr ((Keyed.find?_erase_self ready.sound.ascending).trans hallowed.symm)
      · exact .inl (Keyed.find?_erase_of_ne hkey m.documents)
    · exact .inl rfl
  | mapping =>
    simp only [Memory.answer]
    split <;> exact .inl rfl
  | «exists» => exact .inl rfl
  | _ => exact .inl (by simp only [Memory.answer, Memory.ifExists_of_isSome ready.mapping])

theorem emptier_act {call : Index.Call} (hcall : call ≠ .deleteAll) (j : Nat) (b : Board) :
    (act store j (.index call) b).2.emptier = b.emptier := by
  cases call with
  | deleteAll => exact absurd rfl hcall
  | _ => rfl

/-- Emptying an index leaves nothing in it. -/
theorem find?_deleteAll {m : Memory} (ready : m.Ready) (key : String) :
    Keyed.find? key (m.answer .deleteAll).2.documents = none := by
  simp only [Memory.answer, Memory.ifExists_of_isSome ready.mapping]
  rfl

/-- What runs keep to leaves a valid index behind. -/
theorem Valid.act (h : Valid store runs b) (hi : i < runs) {effect : Effect}
    (hallowed : Allowed store effect) : Valid store runs (act store i effect b).2 := by
  cases effect with
  | index call =>
    have hready : (Board.act store i (.index call) b).2.index.Ready :=
      h.ready.answer call fun hdrop => by rw [hdrop] at hallowed; exact hallowed
    by_cases hcall : call = .deleteAll
    · subst hcall
      refine ⟨hready, fun j hj => ?_, fun _ key => .inl (find?_deleteAll h.ready key)⟩
      obtain rfl := Option.some.inj hj
      exact hi
    · refine ⟨hready, fun j hj => ?_, fun hne key => ?_⟩
      · rw [emptier_act hcall] at hj
        exact h.known j hj
      · rw [emptier_act hcall] at hne
        rcases find?_answer h.ready hallowed hcall key with hsame | hstored
        · exact (h.fresh hne key).imp hsame.trans hsame.trans
        · exact .inr hstored
  | _ => exact h

/-- Unless it empties the index, a request of any run, its own included, is one that a run can rely
on. -/
theorem Relies.of_answer (ready : b.index.Ready) {call : Index.Call}
    (hallowed : Allowed store (.index call)) (hcall : call ≠ .deleteAll) (i j : Nat) :
    Relies store i b (Board.act store j (.index call) b).2 := by
  refine ⟨fun h => ?_, fun h => ?_, fun _ key hkey => ?_⟩
  · rwa [emptier_act hcall]
  · rwa [emptier_act hcall] at h
  · rcases find?_answer ready hallowed hcall key with hsame | hstored
    · exact hsame.trans hkey
    · exact hstored

/-- A run can rely on what the others do. -/
theorem Relies.of_act (hij : i ≠ j) (h : Valid store runs b) {effect : Effect}
    (hallowed : Allowed store effect) : Relies store i b (Board.act store j effect b).2 := by
  cases effect with
  | index call =>
    by_cases hcall : call = .deleteAll
    · subst hcall
      have hother : some j ≠ some i := fun heq => hij (Option.some.inj heq).symm
      exact ⟨fun _ => nofun, fun hi => absurd hi hother, fun hi => absurd hi hother⟩
    · exact .of_answer h.ready hallowed hcall i j
  | _ => exact .refl store i b

/-- How runs share an index. -/
def sharing (store : Store.Memory) (runs : Nat) : Sharing Board where
  parties := runs
  act := act store
  allowed := Allowed store
  valid := Valid store runs
  rely := Relies store
  rely_refl := .refl store
  rely_trans := .trans
  valid_act hi h hallowed := h.act hi hallowed
  rely_act hij h hallowed := .of_act hij h hallowed

end Board

end Sync

end CatalogSearch
