import CatalogSearch.Json.Reader
import CatalogSearch.Proofs.Text.PercentCoding

/-!
# Reading strings back

A reader passes a written text and stands behind it. A string is written without control
characters, and it is read back as it was.
-/
namespace CatalogSearch.Json

/-- The place behind a text that begins at a place. -/
def Place.behind (place : Place) (text : List Char) : Place :=
  text.foldl Cursor.past place

namespace Place

variable (place : Place)

@[simp] theorem behind_nil : place.behind [] = place := rfl

@[simp] theorem behind_cons (c : Char) (text : List Char) :
    place.behind (c :: text) = (Cursor.past place c).behind text := rfl

@[simp] theorem behind_append (s t : List Char) :
    place.behind (s ++ t) = (place.behind s).behind t :=
  List.foldl_append ..

end Place

namespace Cursor

variable (c : Char) (rest : List Char) (place : Place)

@[simp] theorem next_cons : next ⟨c :: rest, place⟩ = ⟨rest, past place c⟩ := rfl

@[simp] theorem peek_cons : peek ⟨c :: rest, place⟩ = some c := rfl

@[simp] theorem peek_nil : peek ⟨[], place⟩ = none := rfl

/-- Nothing is passed where no blank is next. -/
theorem skipBlanks_cons {c : Char} (solid : isJsonBlank c = false) :
    skipBlanks ⟨c :: rest, place⟩ = ⟨c :: rest, place⟩ := by
  simp [skipBlanks, skipWhile, skipWhile.go, solid]

end Cursor

/-- The letters of a literal name are passed. -/
theorem readIdent_append (letters rest : List Char) (place : Place) :
    readIdent letters ⟨letters ++ rest, place⟩ = .ok ⟨rest, place.behind letters⟩ := by
  induction letters generalizing place with
  | nil => rfl
  | cons c more ih => simp [readIdent, ih]

theorem hexValue?_lowerHexDigit {n : Nat} (digit : n < 16) :
    Text.hexValue? (Text.lowerHexDigit n) = some n := by
  have all : ∀ n < 16, Text.hexValue? (Text.lowerHexDigit n) = some n := by decide
  exact all n digit

/-- The escape of a control character names it. -/
theorem hexQuad?_control {c : Char} (control : c.toNat < 32) :
    hexQuad? '0' '0' (Text.lowerHexDigit (c.toNat / 16)) (Text.lowerHexDigit (c.toNat % 16)) =
      some c.toNat := by
  have high := hexValue?_lowerHexDigit (show c.toNat / 16 < 16 by omega)
  have low := hexValue?_lowerHexDigit (show c.toNat % 16 < 16 by omega)
  have zero : Text.hexValue? '0' = some 0 := by decide
  simp only [hexQuad?, zero, high, low, Option.bind_eq_bind, Option.bind_some, Option.pure_def,
    Option.some.injEq]
  omega

/-- The escape of a character is read as that character. -/
theorem readEscape_control {c : Char} (control : c.toNat < 32) (rest : List Char)
    (place : Place) :
    readEscape ⟨['u', '0', '0', Text.lowerHexDigit (c.toNat / 16),
        Text.lowerHexDigit (c.toNat % 16)] ++ rest, place⟩ =
      .ok (c, ⟨rest, place.behind ['u', '0', '0', Text.lowerHexDigit (c.toNat / 16),
        Text.lowerHexDigit (c.toNat % 16)]⟩) := by
  have low : ¬ (0xDC00 ≤ c.toNat ∧ c.toNat ≤ 0xDFFF) := by omega
  have single : c.toNat < 0xD800 ∨ 0xDBFF < c.toNat := by omega
  simp [readEscape, readUnicodeEscape, readHex4, hexQuad?_control control, low, single,
    Char.ofNat_toNat]

section

variable {c : Char} (seen : List Char) (fuel : Nat) (rest : List Char) (place : Place)

/-- A character behind a backslash is read as an escape says. -/
theorem readStringBody_escape {more : List Char} {place' : Place}
    (escape : readEscape ⟨more, Cursor.past place '\\'⟩ = .ok (c, ⟨rest, place'⟩)) :
    readStringBody seen (fuel + 1) ⟨'\\' :: more, place⟩ =
      readStringBody (c :: seen) fuel ⟨rest, place'⟩ := by
  simp [readStringBody, escape]

/-- A character that is not escaped is read as it stands. -/
theorem readStringBody_plain (quote : c ≠ '"') (backslash : c ≠ '\\') (printed : ¬ c.toNat < 32) :
    readStringBody seen (fuel + 1) ⟨c :: rest, place⟩ =
      readStringBody (c :: seen) fuel ⟨rest, Cursor.past place c⟩ := by
  rw [readStringBody]
  simp [printed]

/-- One written character is read as that character. -/
theorem readStringBody_stringChar (c : Char) :
    readStringBody seen (fuel + 1) ⟨stringChar c ++ rest, place⟩ =
      readStringBody (c :: seen) fuel ⟨rest, place.behind (stringChar c)⟩ := by
  unfold stringChar
  split
  · subst c
    exact readStringBody_escape seen fuel rest place rfl
  split
  · subst c
    exact readStringBody_escape seen fuel rest place rfl
  split
  · subst c
    exact readStringBody_escape seen fuel rest place rfl
  split
  · subst c
    exact readStringBody_escape seen fuel rest place rfl
  split
  · subst c
    exact readStringBody_escape seen fuel rest place rfl
  split
  · rename_i code
    obtain rfl : c = Char.ofNat 8 := by rw [← code, Char.ofNat_toNat]
    exact readStringBody_escape seen fuel rest place rfl
  split
  · rename_i code
    obtain rfl : c = Char.ofNat 12 := by rw [← code, Char.ofNat_toNat]
    exact readStringBody_escape seen fuel rest place rfl
  split
  · rename_i control
    exact readStringBody_escape seen fuel rest place (readEscape_control control rest _)
  · rename_i quote backslash _ _ _ _ _ printed
    exact readStringBody_plain seen fuel rest place quote backslash printed

end

/-- Written characters are read one by one up to the closing quote. -/
theorem readStringBody_written (text seen rest : List Char) (fuel : Nat)
    (enough : text.length < fuel) (place : Place) :
    readStringBody seen fuel ⟨text.flatMap stringChar ++ '"' :: rest, place⟩ =
      .ok (String.ofList (seen.reverse ++ text),
        ⟨rest, place.behind (text.flatMap stringChar ++ ['"'])⟩) := by
  induction text generalizing seen fuel place with
  | nil =>
    obtain ⟨left, rfl⟩ : ∃ left, fuel = left + 1 := ⟨fuel - 1, by simp at enough; omega⟩
    simp [readStringBody]
  | cons c text ih =>
    obtain ⟨left, rfl⟩ : ∃ left, fuel = left + 1 := ⟨fuel - 1, by simp at enough; omega⟩
    rw [List.flatMap_cons, List.append_assoc, readStringBody_stringChar,
      ih (c :: seen) left (by simpa using enough)]
    simp

theorem stringChar_ne_nil (c : Char) : stringChar c ≠ [] := by
  grind [stringChar]

theorem length_le_flatMap_stringChar (text : List Char) :
    text.length ≤ (text.flatMap stringChar).length := by
  induction text with
  | nil => simp
  | cons c text ih =>
    have one := List.length_pos_iff.2 (stringChar_ne_nil c)
    rw [List.flatMap_cons, List.length_append, List.length_cons]
    omega

/-- A string is read back from its text. -/
theorem readString_stringText (s : String) (rest : List Char) (place : Place) :
    readString ⟨stringText s ++ rest, place⟩ =
      .ok (s, ⟨rest, place.behind (stringText s)⟩) := by
  have room := length_le_flatMap_stringChar s.toList
  have body := readStringBody_written s.toList [] rest ((stringText s ++ rest).length + 1)
    (by simp only [stringText, List.length_append, List.length_cons]; omega)
    (Cursor.past place '"')
  simpa [readString, stringText] using body

theorem printed_lowerHexDigit {n : Nat} (digit : n < 16) :
    32 ≤ (Text.lowerHexDigit n).toNat := by
  have all : ∀ n < 16, 32 ≤ (Text.lowerHexDigit n).toNat := by decide
  exact all n digit

/-- No control character stands in a written string. -/
theorem printed_stringChar (c : Char) : ∀ d ∈ stringChar c, 32 ≤ d.toNat := by
  have two : ∀ a b : Char, 32 ≤ a.toNat → 32 ≤ b.toNat → ∀ d ∈ [a, b], 32 ≤ d.toNat := by
    intro a b first second
    simp [first, second]
  unfold stringChar
  -- seven characters have an escape of two letters
  iterate 7
    split
    · exact two _ _ (by decide) (by decide)
  split
  · rename_i control
    have high := printed_lowerHexDigit (show c.toNat / 16 < 16 by omega)
    have low := printed_lowerHexDigit (show c.toNat % 16 < 16 by omega)
    simp [high, low]
  · rename_i printed
    simpa using printed

end CatalogSearch.Json
