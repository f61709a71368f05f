import CatalogSearch.Proofs.Json.Reread

/-!
# What is read is in order

A reader puts the members of an object in order as it goes, so whatever value it returns is in
ordered form already: as a value of its own, or as a member of a record.
-/
namespace CatalogSearch.Json

/-- The members of every object in the value are in order. -/
def InOrder (v : Json) : Prop := v.ordered = v

theorem inOrder_arr {items : List Json} (each : ∀ v ∈ items, InOrder v) : InOrder (.arr items) := by
  have same : items.map ordered = items := by
    rw [List.map_congr_left each]
    exact List.map_id' items
  rw [InOrder, ordered, orderedItems_eq_map, same]

theorem inOrder_obj {members : List (String × Json)} (ascending : Keyed.Ascending members)
    (each : ∀ e ∈ members, InOrder e.2) : InOrder (.obj members) := by
  have same : members.map (fun e => (e.1, e.2.ordered)) = members := by
    have kept : ∀ e ∈ members, (e.1, e.2.ordered) = e := fun e mem => Prod.ext rfl (each e mem)
    rw [List.map_congr_left kept]
    exact List.map_id' members
  rw [InOrder, ordered, orderedMembers_eq_map, same, object, Keyed.ofList_of_ascending ascending]

/-- What is read satisfies `p`. -/
def Yields {α : Type} (p : α → Prop) (reading : Reading α) : Prop :=
  ∀ a cur, reading = .ok (a, cur) → p a

section

variable {α β : Type} {p : α → Prop} {q : β → Prop}

theorem Yields.ok {a : α} {cur : Cursor} (h : p a) : Yields p (.ok (a, cur)) := by
  rintro b after ⟨⟩
  exact h

theorem Yields.error {message : String} : Yields p (.error message) := by
  rintro a cur ⟨⟩

theorem Yields.failHere {cur : Cursor} {e : SyntaxError} : Yields p (failHere cur e) := .error

theorem Yields.failAhead {cur : Cursor} {e : SyntaxError} : Yields p (failAhead cur e) := .error

theorem Yields.refuse {expected : String} {cur : Cursor} : Yields p (refuse expected cur) := by
  unfold Json.refuse
  split
  · exact .failAhead
  · exact .error
  · exact .error
  · split <;> exact .error

theorem Yields.map {reading : Reading α} {f : α → β} (h : Yields p reading)
    (next : ∀ a, p a → q (f a)) : Yields q (reading.map fun r => (f r.1, r.2)) := by
  cases reading with
  | error message => exact .error
  | ok r => exact .ok (next r.1 (h r.1 r.2 rfl))

theorem Yields.bind {γ : Type} {step : Except String γ} {f : γ → Reading α}
    (next : ∀ c, Yields p (f c)) : Yields p (step.bind f) := by
  cases step with
  | error message => exact .error
  | ok c => exact next c

/-- A reading that is alone in its text. -/
theorem Yields.ended {reading : Reading α} {a : α} (h : Yields p reading)
    (read : (do let (a, cur) ← reading; readEnd cur; return a) = Except.ok a) : p a := by
  change (reading.bind fun r => (readEnd r.2).bind fun _ => .ok r.1) = .ok a at read
  cases part : reading with
  | error message =>
    rw [part] at read
    cases read
  | ok r =>
    rw [part, Except.bind] at read
    cases ends : readEnd r.2 with
    | error message =>
      rw [ends] at read
      cases read
    | ok _ =>
      rw [ends] at read
      obtain rfl := Except.ok.inj read
      exact h _ _ part

/-- The elements of an array satisfy what is known of each. -/
theorem yields_readElements {element : Cursor → Reading α} (each : ∀ cur, Yields p (element cur))
    {seen : List α} (before : ∀ a ∈ seen, p a) (first : Bool) (fuel : Nat) (cur : Cursor) :
    Yields (fun items => ∀ a ∈ items, p a) (readElements element seen first fuel cur) := by
  induction fuel generalizing seen first cur with
  | zero => exact .failAhead
  | succ fuel ih =>
    rw [readElements]
    split
    · exact .error
    · exact .ok fun a mem => before a (List.mem_reverse.1 mem)
    · split
      · exact .error
      · next item after read =>
        apply ih
        intro a mem
        rcases List.mem_cons.1 mem with rfl | mem
        · exact each _ _ _ read
        · exact before a mem

end

theorem yields_floatOfParts (negative : Bool) (significand : Nat) (exponent : Int) (cur : Cursor) :
    Yields InOrder (floatOfParts negative significand exponent cur) := by
  unfold floatOfParts
  split
  · exact .ok rfl
  · exact .failHere

theorem yields_readExponent (negative : Bool) (significand : Nat) (starting : Int) (cur : Cursor) :
    Yields InOrder (readExponent negative significand starting cur) := by
  unfold readExponent
  dsimp only
  split
  · exact .failHere
  · split
    · exact .failAhead
    · -- the exponent may have a sign
      split
      all_goals
        split
        · split
          · exact .failHere
          · exact .ok rfl
        · apply yields_floatOfParts

theorem yields_readExponentOrEnd (negative : Bool) (significand : Nat) (exponent : Int)
    (cur : Cursor) : Yields InOrder (readExponentOrEnd negative significand exponent cur) := by
  unfold readExponentOrEnd
  split
  · apply yields_readExponent
  · apply yields_readExponent
  · apply yields_floatOfParts

theorem yields_readFraction (negative : Bool) (significand : Nat) (before : Int) (cur : Cursor) :
    Yields InOrder (readFraction negative significand before cur) := by
  unfold readFraction
  dsimp only
  split
  · apply yields_readExponentOrEnd
  · split
    · split <;> exact .failAhead
    · apply yields_readExponentOrEnd

theorem yields_readNumber (negative : Bool) (cur : Cursor) :
    Yields InOrder (readNumber negative cur) := by
  unfold readNumber
  split
  · exact .failHere
  · next c _ =>
    split
    · exact .failAhead
    · generalize (if c = '0' then (0, 1, cur.rest.tail) else takeDigits naturalLimit 0 0 cur.rest)
        = taken
      dsimp only
      split
      · split
        · exact .failAhead
        · split
          · apply yields_readFraction
          · apply yields_readExponentOrEnd
      · split
        · apply yields_readFraction
        · apply yields_readExponent
        · apply yields_readExponent
        · split
          · exact .ok rfl
          · split <;> exact .ok rfl

theorem yields_readScalar (c : Char) (cur : Cursor) : Yields InOrder (readScalar c cur) := by
  have ident (letters : List Char) (v : Json) (plain : InOrder v) :
      Yields InOrder ((readIdent letters cur.next).map (v, ·)) := by
    cases readIdent letters cur.next with
    | error message => exact .error
    | ok after => exact .ok plain
  unfold readScalar
  split
  · exact ident _ _ rfl
  · exact ident _ _ rfl
  · exact ident _ _ rfl
  · apply yields_readNumber
  · have any : Yields (fun _ => True) (readString cur) := fun _ _ _ => trivial
    exact any.map fun s _ => rfl
  · split
    · apply yields_readNumber
    · exact .failAhead

section

variable {inner : String → Except String Json}
  (embeds : ∀ text v, inner text = .ok v → InOrder v)

include embeds

theorem yields_readEmbedded (cur : Cursor) : Yields InOrder (readEmbedded inner cur) := by
  unfold readEmbedded
  split
  · exact .error
  · dsimp only
    split
    · exact .refuse
    · split
      · exact .error
      · next value after read =>
        have plain : InOrder value := by
          cases text : readString (Cursor.skipBlanks _) with
          | error message =>
            rw [text] at read
            cases read
          | ok r =>
            rw [text] at read
            cases held : inner r.1 with
            | error message =>
              simp [Except.bind, held, Except.map] at read
            | ok v =>
              simp [Except.bind, held, Except.map] at read
              rw [← read.1]
              exact embeds r.1 v held
        split
        · exact .ok plain
        · exact .failAhead
        · exact .failAhead
        · exact .failAhead

theorem yields_readMembers {element : Cursor → Reading Json}
    (each : ∀ cur, Yields InOrder (element cur)) {seen : List (String × Json)}
    (ascending : Keyed.Ascending seen) (before : ∀ e ∈ seen, InOrder e.2) (first : Bool)
    (fuel : Nat) (cur : Cursor) :
    Yields InOrder (readMembers inner element seen first fuel cur) := by
  induction fuel generalizing seen first cur with
  | zero => exact .failAhead
  | succ fuel ih =>
    rw [readMembers]
    split
    · exact .error
    · exact .ok (inOrder_obj ascending before)
    · split
      · exact .error
      · next key after _ =>
        split
        · exact yields_readEmbedded embeds _
        · split
          · exact .error
          · next item after' read =>
            have plain : InOrder item := by
              have bound : Yields InOrder ((passColon after).bind element) := .bind each
              exact bound _ _ read
            apply ih (Keyed.ascending_insert _ _ ascending)
            intro e mem
            rcases Keyed.mem_insert mem with rfl | mem
            · exact plain
            · exact before e mem

theorem yields_readNested (depth : Nat) (cur : Cursor) :
    Yields InOrder (readNested inner depth cur) := by
  induction depth generalizing cur with
  | zero =>
    rw [readNested]
    split
    · exact .failAhead
    · exact .failAhead
    · exact .failAhead
    · apply yields_readScalar
  | succ depth ih =>
    rw [readNested]
    split
    · exact .failAhead
    · exact (yields_readElements ih (by simp) _ _ _).map fun items each => inOrder_arr each
    · exact yields_readMembers embeds ih .nil (by simp) _ _ _
    · apply yields_readScalar

end

theorem inOrder_of_parseWithin {fuel : Nat} {text : String} {v : Json}
    (read : parseWithin fuel text = .ok v) : InOrder v := by
  induction fuel generalizing text v with
  | zero => cases read
  | succ fuel ih => exact (yields_readNested (fun _ _ => ih) _ _).ended read

/-- Any value that is read is in order. -/
theorem yields_readValue (depth : Nat) (cur : Cursor) : Yields InOrder (readValue depth cur) :=
  yields_readNested (fun _ _ => inOrder_of_parseWithin) depth cur

/-- Reading the members of a record one by one keeps a property of the slots, which carries over to
the record. -/
structure Layout.Keeps {σ α : Type} (layout : Layout FromText σ α) (kept : σ → Prop)
    (p : α → Prop) : Prop where
  empty : kept layout.empty
  put : ∀ name read, layout.put name = some read → ∀ slots depth cur, kept slots →
    Yields kept (read slots depth cur)
  finish : ∀ slots a, kept slots → layout.finish slots = .ok a → p a

namespace Layout.Keeps

variable {σ α : Type} {layout : Layout FromText σ α} {kept : σ → Prop} {p : α → Prop}
  (keeps : layout.Keeps kept p)

include keeps

theorem members {slots : σ} (holds : kept slots) (depth : Nat) (first : Bool) (fuel : Nat)
    (cur : Cursor) : Yields p (FromText.members layout depth slots first fuel cur) := by
  induction fuel generalizing slots first cur with
  | zero => exact .failAhead
  | succ fuel ih =>
    rw [FromText.members]
    split
    · exact .error
    · split
      · next a done => exact .ok (keeps.finish _ _ holds done)
      · exact .error
    · split
      · exact .error
      · next name behind _ =>
        split
        · split
          · exact .error
          · exact ih holds _ _
        · next read there =>
          split
          · exact .error
          · split
            · exact .error
            · next slots' after step =>
              have bound : Yields kept ((passColon behind).bind (read slots depth)) :=
                .bind fun cur => keeps.put name read there slots depth cur holds
              exact ih (bound _ _ step) _ _

theorem elements {slots : σ} (holds : kept slots) (depth : Nat) (first : Bool)
    (names : List String) (cur : Cursor) :
    Yields p (FromText.elements layout depth slots first names cur) := by
  induction names generalizing slots first cur with
  | nil =>
    rw [FromText.elements]
    split
    · exact .error
    · next a done =>
      dsimp only
      split
      · exact .ok (keeps.finish _ _ holds done)
      · split <;> exact .failAhead
      · exact .failAhead
      · exact .failAhead
  | cons name names ih =>
    rw [FromText.elements]
    split
    · exact .error
    · split
      · exact .error
      · next a done => exact .ok (keeps.finish _ _ holds done)
    · split
      · exact ih holds _ _
      · next read there =>
        split
        · exact .error
        · next slots' after step =>
          exact ih (keeps.put _ _ there _ _ _ holds _ _ step) _ _

theorem record (depth : Nat) (cur : Cursor) : Yields p (FromText.record layout depth cur) := by
  unfold FromText.record
  dsimp only
  split
  · exact .failAhead
  · exact .failAhead
  · apply keeps.elements keeps.empty
  · apply keeps.members keeps.empty
  · exact .refuse

end Layout.Keeps

end CatalogSearch.Json
