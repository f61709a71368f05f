import CatalogSearch.Json.Decode
import CatalogSearch.Json.Printer
import CatalogSearch.Keyed.Lookup
import CatalogSearch.Proofs.Json.Numbers

/-!
# Reading values back

A written value is read back in ordered form, whatever follows it. Two things have to be granted:
the value holds no number with a fraction and is not nested too deep, and no object in it begins
with the name of an embedded text, since such an object would be taken for the text's value.
-/
namespace CatalogSearch.Json

mutual

/-- The value with the members of every object in ordered form. -/
def ordered : Json → Json
  | .arr items => .arr (orderedItems items)
  | .obj members => object (orderedMembers members)
  | v => v

def orderedItems : List Json → List Json
  | [] => []
  | v :: rest => ordered v :: orderedItems rest

def orderedMembers : List (String × Json) → List (String × Json)
  | [] => []
  | (key, v) :: rest => (key, ordered v) :: orderedMembers rest

end

/-- Numbers are whole, and containers are nested at most `n` deep. -/
inductive Whole : Nat → Json → Prop
  | null {n : Nat} : Whole n .null
  | bool {n : Nat} (b : Bool) : Whole n (.bool b)
  | int {n : Nat} {i : Int} (whole : IsWhole i) : Whole n (.int i)
  | str {n : Nat} (s : String) : Whole n (.str s)
  | arr {n : Nat} {items : List Json} (each : ∀ v ∈ items, Whole n v) : Whole (n + 1) (.arr items)
  | obj {n : Nat} {members : List (String × Json)} (each : ∀ e ∈ members, Whole n e.2) :
    Whole (n + 1) (.obj members)

/-- No object begins with the name of an embedded text. -/
inductive Unembedded : Json → Prop
  | null : Unembedded .null
  | bool (b : Bool) : Unembedded (.bool b)
  | int (i : Int) : Unembedded (.int i)
  | float (x : Double) : Unembedded (.float x)
  | str (s : String) : Unembedded (.str s)
  | arr {items : List Json} (each : ∀ v ∈ items, Unembedded v) : Unembedded (.arr items)
  | obj {members : List (String × Json)} (head : ∀ e ∈ members.head?, e.1 ≠ embeddedName)
    (each : ∀ e ∈ members, Unembedded e.2) : Unembedded (.obj members)

theorem Whole.mono {n m : Nat} {v : Json} (whole : Whole n v) (le : n ≤ m) : Whole m v := by
  induction whole generalizing m with
  | null => exact .null
  | bool b => exact .bool b
  | int whole => exact .int whole
  | str s => exact .str s
  | arr _ ih =>
    obtain ⟨k, rfl⟩ : ∃ k, m = k + 1 := ⟨m - 1, by omega⟩
    exact .arr fun v mem => ih v mem (by omega)
  | obj _ ih =>
    obtain ⟨k, rfl⟩ : ∃ k, m = k + 1 := ⟨m - 1, by omega⟩
    exact .obj fun e mem => ih e mem (by omega)

theorem orderedItems_eq_map (items : List Json) : orderedItems items = items.map ordered := by
  induction items with
  | nil => rfl
  | cons v rest ih => rw [orderedItems, ih, List.map_cons]

theorem orderedMembers_eq_map (members : List (String × Json)) :
    orderedMembers members = members.map fun e => (e.1, e.2.ordered) := by
  induction members with
  | nil => rfl
  | cons e rest ih => rw [orderedMembers, ih, List.map_cons]

/-- A text is read as a value, and the reader stands behind it, whatever follows. -/
def Reads {α : Type} (read : Cursor → Reading α) (text : List Char) (a : α) : Prop :=
  ∀ rest, Delimited rest → ∀ place,
    read ⟨text ++ rest, place⟩ = .ok (a, ⟨rest, place.behind text⟩)

/-- A text begins with something that is neither blank nor the end of an array. -/
def Solid (text : List Char) : Prop :=
  ∃ c more, text = c :: more ∧ Cursor.isJsonBlank c = false ∧ c ≠ ']'

section

variable {text : List Char} (solid : Solid text) (rest : List Char) (place : Place)

include solid

theorem skipBlanks_solid :
    Cursor.skipBlanks ⟨text ++ rest, place⟩ = ⟨text ++ rest, place⟩ := by
  obtain ⟨c, more, rfl, blank, _⟩ := solid
  exact Cursor.skipBlanks_cons _ _ blank

theorem nextElement_first :
    nextElement true ⟨text ++ rest, place⟩ = .ok (true, ⟨text ++ rest, place⟩) := by
  have stay := skipBlanks_solid solid rest place
  obtain ⟨c, more, rfl, _, bracket⟩ := solid
  simp only [nextElement, stay]
  simp

theorem nextElement_comma :
    nextElement false ⟨',' :: (text ++ rest), place⟩ =
      .ok (true, ⟨text ++ rest, Cursor.past place ','⟩) := by
  have comma := Cursor.skipBlanks_cons (text ++ rest) place
    (show Cursor.isJsonBlank ',' = false from rfl)
  have stay := skipBlanks_solid solid rest (Cursor.past place ',')
  obtain ⟨c, more, rfl, _, bracket⟩ := solid
  simp only [nextElement, comma, Cursor.peek_cons, Cursor.next_cons, stay]
  simp

end

theorem nextElement_end (first : Bool) (rest : List Char) (place : Place) :
    nextElement first ⟨']' :: rest, place⟩ = .ok (false, ⟨']' :: rest, place⟩) := by
  have stay := Cursor.skipBlanks_cons rest place (show Cursor.isJsonBlank ']' = false from rfl)
  simp [nextElement, stay]

/-- What stands behind an element of an array. -/
theorem delimited_behind {β : Type} (text : β → List Char) (items : List β) {closing : Char}
    {rest : List Char} (closes : Delimited (closing :: rest)) :
    Delimited ((items.flatMap fun b => ',' :: text b) ++ closing :: rest) := by
  cases items with
  | nil => exact closes
  | cons b more => exact .comma _

/-- Elements behind commas are read one by one up to the closing bracket. -/
theorem readElements_behind {α β : Type} {element : Cursor → Reading α} {text : β → List Char}
    {value : β → α} (items : List β)
    (each : ∀ b ∈ items, Solid (text b) ∧ Reads element (text b) (value b))
    (seen : List α) (fuel : Nat) (enough : items.length < fuel) (rest : List Char)
    (place : Place) :
    readElements element seen false fuel
        ⟨(items.flatMap fun b => ',' :: text b) ++ ']' :: rest, place⟩ =
      .ok (seen.reverse ++ items.map value,
        ⟨rest, place.behind ((items.flatMap fun b => ',' :: text b) ++ [']'])⟩) := by
  induction items generalizing seen fuel place with
  | nil =>
    obtain ⟨left, rfl⟩ : ∃ left, fuel = left + 1 := ⟨fuel - 1, by simp at enough; omega⟩
    simp [readElements, nextElement_end]
  | cons b more ih =>
    obtain ⟨left, rfl⟩ : ∃ left, fuel = left + 1 := ⟨fuel - 1, by simp at enough; omega⟩
    obtain ⟨solid, reads⟩ := each b List.mem_cons_self
    have here := reads _ (delimited_behind text more (.bracket rest)) (Cursor.past place ',')
    have after := ih (fun b mem => each b (List.mem_cons_of_mem _ mem)) (value b :: seen) left
      (by simpa using enough) ((Cursor.past place ',').behind (text b))
    rw [List.flatMap_cons, List.cons_append, List.cons_append, List.append_assoc, readElements,
      nextElement_comma solid]
    simp only [here, after]
    simp

/-- The texts of some parts, separated by commas. -/
def separated {β : Type} (text : β → List Char) : List β → List Char
  | [] => []
  | b :: more => text b ++ more.flatMap fun b => ',' :: text b

/-- Elements separated by commas are read up to the closing bracket. -/
theorem readElements_separated {α β : Type} {element : Cursor → Reading α}
    {text : β → List Char} {value : β → α} (items : List β)
    (each : ∀ b ∈ items, Solid (text b) ∧ Reads element (text b) (value b))
    (fuel : Nat) (enough : items.length < fuel) (rest : List Char) (place : Place) :
    readElements element [] true fuel ⟨separated text items ++ ']' :: rest, place⟩ =
      .ok (items.map value, ⟨rest, place.behind (separated text items ++ [']'])⟩) := by
  obtain ⟨left, rfl⟩ : ∃ left, fuel = left + 1 := ⟨fuel - 1, by omega⟩
  cases items with
  | nil => simp [readElements, nextElement_end, separated]
  | cons b more =>
    obtain ⟨solid, reads⟩ := each b List.mem_cons_self
    have here := reads _ (delimited_behind text more (.bracket rest)) place
    have after := readElements_behind more (fun b mem => each b (List.mem_cons_of_mem _ mem))
      [value b] left (by simpa using enough) rest (place.behind (text b))
    rw [separated, List.append_assoc, readElements, nextElement_first solid]
    simp only [here, after]
    simp

theorem solid_stringText (s : String) : Solid (stringText s) :=
  ⟨'"', _, rfl, rfl, by decide⟩

theorem nextKey_first (s : String) (rest : List Char) (place : Place) :
    nextKey true ⟨stringText s ++ rest, place⟩ = .ok (true, ⟨stringText s ++ rest, place⟩) := by
  have stay := skipBlanks_solid (solid_stringText s) rest place
  unfold nextKey
  simp only [stay]
  rfl

theorem nextKey_comma (s : String) (rest : List Char) (place : Place) :
    nextKey false ⟨',' :: (stringText s ++ rest), place⟩ =
      .ok (true, ⟨stringText s ++ rest, Cursor.past place ','⟩) := by
  have comma := Cursor.skipBlanks_cons (stringText s ++ rest) place
    (show Cursor.isJsonBlank ',' = false from rfl)
  have stay := skipBlanks_solid (solid_stringText s) rest (Cursor.past place ',')
  unfold nextKey
  simp only [comma, Cursor.peek_cons, Cursor.next_cons, stay]
  rfl

theorem nextKey_end (first : Bool) (rest : List Char) (place : Place) :
    nextKey first ⟨'\x7d' :: rest, place⟩ = .ok (false, ⟨'\x7d' :: rest, place⟩) := by
  have stay := Cursor.skipBlanks_cons rest place (show Cursor.isJsonBlank '\x7d' = false from rfl)
  simp [nextKey, stay]

theorem passColon_cons (rest : List Char) (place : Place) :
    passColon ⟨':' :: rest, place⟩ = .ok ⟨rest, Cursor.past place ':'⟩ := by
  have stay := Cursor.skipBlanks_cons rest place (show Cursor.isJsonBlank ':' = false from rfl)
  simp [passColon, stay]

def memberText (e : String × Json) : List Char :=
  stringText e.1 ++ ':' :: chars e.2

/-- Members behind commas are read one by one up to the closing brace. -/
theorem readMembers_behind {inner : String → Except String Json}
    {element : Cursor → Reading Json} {value : Json → Json} (members : List (String × Json))
    (each : ∀ e ∈ members, Reads element e.2.chars (value e.2))
    (seen : List (String × Json)) (fuel : Nat) (enough : members.length < fuel)
    (rest : List Char) (place : Place) :
    readMembers inner element seen false fuel
        ⟨(members.flatMap fun e => ',' :: memberText e) ++ '\x7d' :: rest, place⟩ =
      .ok (.obj ((members.map fun e => (e.1, value e.2)).foldl
          (fun acc e => Keyed.insert e.1 e.2 acc) seen),
        ⟨rest, place.behind ((members.flatMap fun e => ',' :: memberText e) ++ ['\x7d'])⟩) := by
  induction members generalizing seen fuel place with
  | nil =>
    obtain ⟨left, rfl⟩ : ∃ left, fuel = left + 1 := ⟨fuel - 1, by simp at enough; omega⟩
    simp [readMembers, nextKey_end]
  | cons e more ih =>
    obtain ⟨left, rfl⟩ : ∃ left, fuel = left + 1 := ⟨fuel - 1, by simp at enough; omega⟩
    have key := readString_stringText e.1
    have here := each e List.mem_cons_self _ (delimited_behind memberText more (.brace rest))
    have after := ih (fun e mem => each e (List.mem_cons_of_mem _ mem))
    rw [List.flatMap_cons, List.cons_append, List.cons_append, List.append_assoc, memberText,
      List.append_assoc, List.cons_append, readMembers, nextKey_comma]
    simp only [key, Bool.false_and, Bool.false_eq_true, ↓reduceIte, passColon_cons, Except.bind,
      here]
    rw [after _ left (by simpa using enough)]
    simp [memberText]

/-- Members separated by commas are read up to the closing brace, unless the first one has the
name of an embedded text. -/
theorem readMembers_separated {inner : String → Except String Json}
    {element : Cursor → Reading Json} {value : Json → Json} (members : List (String × Json))
    (head : ∀ e ∈ members.head?, e.1 ≠ embeddedName)
    (each : ∀ e ∈ members, Reads element e.2.chars (value e.2))
    (fuel : Nat) (enough : members.length < fuel) (rest : List Char) (place : Place) :
    readMembers inner element [] true fuel
        ⟨separated memberText members ++ '\x7d' :: rest, place⟩ =
      .ok (object (members.map fun e => (e.1, value e.2)),
        ⟨rest, place.behind (separated memberText members ++ ['\x7d'])⟩) := by
  obtain ⟨left, rfl⟩ : ∃ left, fuel = left + 1 := ⟨fuel - 1, by omega⟩
  cases members with
  | nil => simp [readMembers, nextKey_end, separated, object, Keyed.ofList]
  | cons e more =>
    have plain : e.1 ≠ embeddedName := head e rfl
    have key := readString_stringText e.1
    have here := each e List.mem_cons_self _ (delimited_behind memberText more (.brace rest))
    have later : ∀ e ∈ more, Reads element e.2.chars (value e.2) :=
      fun e mem => each e (List.mem_cons_of_mem _ mem)
    rw [separated, List.append_assoc, memberText, List.append_assoc, List.cons_append, readMembers,
      nextKey_first]
    simp only [key, Bool.true_and, decide_eq_true_eq, plain, ↓reduceIte, passColon_cons,
      Except.bind, here]
    rw [readMembers_behind more later _ left (by simpa using enough)]
    simp [memberText, object, Keyed.ofList]

theorem elementChars_eq_separated (items : List Json) :
    elementChars items = separated chars items := by
  induction items with
  | nil => rfl
  | cons v more ih =>
    cases more with
    | nil => simp [elementChars, separated]
    | cons w later => simp [elementChars, separated, ih]

theorem memberChars_eq_separated (members : List (String × Json)) :
    memberChars members = separated memberText members := by
  induction members with
  | nil => rfl
  | cons e more ih =>
    cases more with
    | nil => simp [memberChars, separated, memberText]
    | cons f later => simp [memberChars, separated, memberText, ih]

theorem length_le_flatMap {β : Type} (text : β → List Char) (items : List β) :
    items.length ≤ (items.flatMap fun b => ',' :: text b).length := by
  induction items with
  | nil => simp
  | cons b more ih =>
    rw [List.flatMap_cons, List.length_append, List.length_cons, List.length_cons]
    omega

/-- There is no more than one part without any text. -/
theorem length_le_separated {β : Type} (text : β → List Char) (items : List β) :
    items.length ≤ (separated text items).length + 1 := by
  cases items with
  | nil => simp
  | cons b more =>
    have behind := length_le_flatMap text more
    rw [separated, List.length_append, List.length_cons]
    omega

/-- A whole number begins with nothing that begins or ends a container. -/
theorem head_intText (n : Int) :
    ∃ c more, intText n = c :: more ∧ Cursor.isJsonBlank c = false ∧
      c ≠ '[' ∧ c ≠ ']' ∧ c ≠ '\x7b' := by
  by_cases negative : n < 0
  · exact ⟨'-', _, if_pos negative, by decide⟩
  · obtain ⟨c, more, shape⟩ := List.exists_cons_of_ne_nil (Text.digits_ne_nil n.natAbs)
    have digit : Text.isDigit c = true :=
      Text.isDigit_of_mem_digits (n := n.natAbs) (by rw [shape]; exact List.mem_cons_self)
    have other : ∀ d, Text.isDigit d = false → c ≠ d := by
      rintro d none rfl
      simp [digit] at none
    refine ⟨c, more, (if_neg negative).trans shape, ?_, other _ rfl, other _ rfl, other _ rfl⟩
    simp [Cursor.isJsonBlank, other ' ' rfl, other '\n' rfl, other '\t' rfl, other '\r' rfl]

theorem solid_chars {n : Nat} {v : Json} (whole : Whole n v) : Solid v.chars := by
  cases whole with
  | null => exact ⟨'n', _, rfl, by decide, by decide⟩
  | bool b =>
    cases b with
    | true => exact ⟨'t', _, rfl, by decide, by decide⟩
    | false => exact ⟨'f', _, rfl, by decide, by decide⟩
  | @int n i _ =>
    obtain ⟨c, more, shape, blank, _, bracket, _⟩ := head_intText i
    exact ⟨c, more, shape, blank, bracket⟩
  | str s => exact solid_stringText s
  | arr _ => exact ⟨'[', _, rfl, by decide, by decide⟩
  | obj _ => exact ⟨'\x7b', _, rfl, by decide, by decide⟩

/-- Where no container begins a scalar is read. -/
theorem readNested_scalar (inner : String → Except String Json) (depth : Nat) {c : Char}
    (more : List Char) (place : Place) (blank : Cursor.isJsonBlank c = false)
    (bracket : c ≠ '[') (brace : c ≠ '\x7b') :
    readNested inner depth ⟨c :: more, place⟩ = readScalar c ⟨c :: more, place⟩ := by
  have stay := Cursor.skipBlanks_cons more place blank
  cases depth with
  | zero =>
    simp only [readNested, stay]
    simp
  | succ depth =>
    simp only [readNested, stay]
    simp

theorem reads_scalar (inner : String → Except String Json) (depth : Nat) {text : List Char}
    {c : Char} {more : List Char} {v : Json} (shape : text = c :: more)
    (blank : Cursor.isJsonBlank c = false) (bracket : c ≠ '[') (brace : c ≠ '\x7b')
    (reads : Reads (readScalar c) text v) : Reads (readNested inner depth) text v := by
  intro rest delimited place
  rw [← reads rest delimited place, shape, List.cons_append,
    readNested_scalar inner depth (more ++ rest) place blank bracket brace]

theorem chars_arr (items : List Json) :
    chars (.arr items) = '[' :: (separated chars items ++ [']']) := by
  simp [chars, elementChars_eq_separated]

theorem chars_obj (members : List (String × Json)) :
    chars (.obj members) = '\x7b' :: (separated memberText members ++ ['\x7d']) := by
  simp [chars, memberChars_eq_separated]

/-- An array is read by reading its elements one level further down. -/
theorem reads_array {inner : String → Except String Json} {depth : Nat} {value : Json → Json}
    (items : List Json) (each : ∀ v ∈ items, Solid v.chars ∧
      Reads (readNested inner depth) v.chars (value v)) :
    Reads (readNested inner (depth + 1)) (chars (.arr items)) (.arr (items.map value)) := by
  intro rest _ place
  have room := length_le_separated chars items
  have stay := Cursor.skipBlanks_cons (separated chars items ++ ']' :: rest) place
    (show Cursor.isJsonBlank '[' = false from rfl)
  have read := readElements_separated items each
    (('[' :: (separated chars items ++ ']' :: rest)).length + 1)
    (by rw [List.length_cons, List.length_append, List.length_cons]; omega) rest
    (Cursor.past place '[')
  rw [chars_arr, List.cons_append, List.append_assoc, List.singleton_append]
  simp only [readNested, stay, Cursor.peek_cons, Cursor.next_cons, read]
  rfl

/-- An object is read by reading its members one level further down. -/
theorem reads_object {inner : String → Except String Json} {depth : Nat} {value : Json → Json}
    (members : List (String × Json)) (head : ∀ e ∈ members.head?, e.1 ≠ embeddedName)
    (each : ∀ e ∈ members, Reads (readNested inner depth) e.2.chars (value e.2)) :
    Reads (readNested inner (depth + 1)) (chars (.obj members))
      (object (members.map fun e => (e.1, value e.2))) := by
  intro rest _ place
  have room := length_le_separated memberText members
  have stay := Cursor.skipBlanks_cons (separated memberText members ++ '\x7d' :: rest) place
    (show Cursor.isJsonBlank '\x7b' = false from rfl)
  rw [chars_obj, List.cons_append, List.append_assoc, List.singleton_append]
  simp only [readNested, stay, Cursor.peek_cons, Cursor.next_cons]
  rw [readMembers_separated members head each _
    (by rw [List.length_cons, List.length_append, List.length_cons]; omega)]
  rfl

/-- A value is read back in ordered form, whatever follows it. -/
theorem reads_chars (inner : String → Except String Json) {n : Nat} {v : Json}
    (whole : Whole n v) (unembedded : Unembedded v) :
    Reads (readNested inner n) v.chars v.ordered := by
  induction whole with
  | @null n =>
    refine reads_scalar inner n rfl rfl (by decide) (by decide) fun rest _ place => ?_
    have letters := readIdent_append ['u', 'l', 'l'] rest (Cursor.past place 'n')
    exact congrArg (Except.map (Json.null, ·)) letters
  | @bool n b =>
    cases b with
    | true =>
      refine reads_scalar inner n rfl rfl (by decide) (by decide) fun rest _ place => ?_
      have letters := readIdent_append ['r', 'u', 'e'] rest (Cursor.past place 't')
      exact congrArg (Except.map (Json.bool true, ·)) letters
    | false =>
      refine reads_scalar inner n rfl rfl (by decide) (by decide) fun rest _ place => ?_
      have letters := readIdent_append ['a', 'l', 's', 'e'] rest (Cursor.past place 'f')
      exact congrArg (Except.map (Json.bool false, ·)) letters
  | @int n i whole =>
    obtain ⟨c, more, shape, blank, bracket, _, brace⟩ := head_intText i
    refine reads_scalar inner n shape blank bracket brace fun rest delimited place => ?_
    exact readScalar_intText whole shape delimited place
  | @str n s =>
    refine reads_scalar inner n rfl rfl (by decide) (by decide) fun rest _ place => ?_
    have read := readString_stringText s rest place
    exact congrArg (Except.map fun r => (Json.str r.1, r.2)) read
  | @arr n items each ih =>
    cases unembedded with
    | arr plain =>
      rw [ordered, orderedItems_eq_map]
      exact reads_array items fun v mem => ⟨solid_chars (each v mem), ih v mem (plain v mem)⟩
  | @obj n members each ih =>
    cases unembedded with
    | obj head plain =>
      rw [ordered, orderedMembers_eq_map]
      exact reads_object members head fun e mem => ih e mem (plain e mem)

/-- A written text is read from its characters. -/
theorem parse_print_eq (v : Json) : parse v.print = do
    let (value, cur) ← readNested (parseWithin v.chars.length) depthLimit (Cursor.start v.chars)
    readEnd cur
    return value := by
  rw [parse, parseWithin, print, String.length_ofList, String.toList_ofList]

/-- A whole text that was written is read back in ordered form. -/
theorem parse_print {v : Json} (whole : Whole depthLimit v) (unembedded : Unembedded v) :
    parse v.print = .ok v.ordered := by
  have read := reads_chars (parseWithin v.chars.length) whole unembedded [] .nil ⟨1, 0⟩
  rw [List.append_nil] at read
  rw [parse_print_eq, Cursor.start, read]
  rfl

/-- Metadata as the catalog holds it: no number with a fraction, containers nested at most 100
levels deep, and the members of every object in order. -/
structure IsMetadata (v : Json) : Prop where
  whole : Whole 100 v
  sorted : v.ordered = v

/-- Metadata is read back as it was. -/
theorem parse_metadata {v : Json} (metadata : IsMetadata v) (unembedded : Unembedded v) :
    parse v.print = .ok v := by
  rw [parse_print (metadata.whole.mono (by decide)) unembedded, metadata.sorted]

theorem isMetadata_empty : IsMetadata (.obj []) :=
  ⟨.obj (by simp), rfl⟩

theorem unembedded_empty : Unembedded (.obj []) :=
  .obj (by simp) (by simp)

/-- Metadata that begins with the name of an embedded text. -/
def embedding : Json := .obj [(embeddedName, .str "1"), ("b", .int 2)]

theorem isMetadata_embedding : IsMetadata embedding := by
  refine ⟨?_, rfl⟩
  have small : IsWhole 2 := by decide
  apply Whole.obj
  simp [Whole.int small, Whole.str]

theorem values_of_each {items : List Json} (each : ∀ v ∈ items, FromValue.value v = .ok v) :
    FromValue.values items = .ok items := by
  induction items with
  | nil => rfl
  | cons v more ih =>
    have here := each v List.mem_cons_self
    have there := ih fun w mem => each w (List.mem_cons_of_mem _ mem)
    rw [FromValue.values, here, there]
    rfl

theorem memberValues_of_each {members : List (String × Json)}
    (each : ∀ e ∈ members, FromValue.value e.2 = .ok e.2) :
    FromValue.memberValues members = .ok members := by
  induction members with
  | nil => rfl
  | cons e more ih =>
    have here := each e List.mem_cons_self
    have there := ih fun f mem => each f (List.mem_cons_of_mem _ mem)
    rw [FromValue.memberValues, here, there]
    rfl

/-- Where no text is embedded a value in memory is taken as it is. -/
theorem value_of_unembedded {v : Json} (unembedded : Unembedded v) :
    FromValue.value v = .ok v := by
  induction unembedded with
  | null => rfl
  | bool b => rfl
  | int i => rfl
  | float x => rfl
  | str s => rfl
  | arr _ ih =>
    rw [FromValue.value, values_of_each ih]
    rfl
  | @obj members head _ ih =>
    cases members with
    | nil => rfl
    | cons e more =>
      have plain : e.1 ≠ embeddedName := head e rfl
      simp only [FromValue.value, List.head?_cons, plain, ↓reduceIte, memberValues_of_each ih]
      rfl

theorem newline_not_mem_separated {β : Type} {text : β → List Char} {items : List β}
    (each : ∀ b ∈ items, '\n' ∉ text b) : '\n' ∉ separated text items := by
  have behind : ∀ more : List β, (∀ b ∈ more, '\n' ∉ text b) →
      '\n' ∉ more.flatMap fun b => ',' :: text b := by
    intro more each mem
    obtain ⟨b, inside, place⟩ := List.mem_flatMap.1 mem
    rcases List.mem_cons.1 place with comma | place
    · exact absurd comma (by decide)
    · exact each b inside place
  cases items with
  | nil => exact List.not_mem_nil
  | cons b more =>
    intro mem
    rcases List.mem_append.1 mem with here | later
    · exact each b List.mem_cons_self here
    · exact behind more (fun d inside => each d (List.mem_cons_of_mem _ inside)) later

theorem newline_not_mem_stringText (s : String) : '\n' ∉ stringText s := by
  intro mem
  simp only [stringText, List.mem_append, List.mem_singleton, List.mem_flatMap] at mem
  rcases mem with (quote | ⟨c, _, place⟩) | quote
  · exact absurd quote (by decide)
  · exact absurd (printed_stringChar c _ place) (by decide)
  · exact absurd quote (by decide)

theorem newline_not_mem_intText (n : Int) : '\n' ∉ intText n := by
  have digits : '\n' ∉ Text.digits n.natAbs := fun mem =>
    absurd (Text.isDigit_of_mem_digits mem) (by decide)
  unfold intText
  split
  · intro mem
    rcases List.mem_cons.1 mem with sign | mem
    · exact absurd sign (by decide)
    · exact digits mem
  · exact digits

/-- No line break stands in a written value. -/
theorem newline_not_mem_chars {n : Nat} {v : Json} (whole : Whole n v) : '\n' ∉ v.chars := by
  induction whole with
  | null => decide
  | bool b => cases b <;> decide
  | @int n i _ => exact newline_not_mem_intText i
  | @str n s => exact newline_not_mem_stringText s
  | arr _ ih =>
    have inside := newline_not_mem_separated ih
    simp [chars_arr, inside]
  | @obj n members _ ih =>
    have inside : '\n' ∉ separated memberText members := newline_not_mem_separated fun e mem => by
      have key := newline_not_mem_stringText e.1
      simp [memberText, key, ih e mem]
    simp [chars_obj, inside]

end CatalogSearch.Json
