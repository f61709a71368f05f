import CatalogSearch.Proofs.Json.Strings
import CatalogSearch.Proofs.Text.PaddedDigits

/-!
# Reading whole numbers back

A whole number is written in decimal digits without a zero in front, and it is read back from them
as long as 64 bits hold it, with or without a sign.
-/
namespace CatalogSearch

namespace Text

theorem isDigit_of_mem_digits {n : Nat} {c : Char} (mem : c ∈ digits n) : isDigit c = true := by
  have digit : c.isDigit = true := Nat.isDigit_of_mem_toDigits (by decide) (by decide) mem
  simpa [isDigit, Char.isDigit, Char.le_def] using digit

theorem ofDigits_digits (n : Nat) : ofDigits (digits n) = n := by
  change Nat.ofDigitChars 10 (Nat.toDigits 10 n) 0 = n
  exact Nat.ofDigitChars_ten_toDigits

theorem digits_ne_nil (n : Nat) : digits n ≠ [] :=
  Nat.toDigits_ne_nil

/-- A zero in front stands alone. -/
theorem eq_nil_of_digits_eq_zero_cons {n : Nat} {more : List Char} (h : digits n = '0' :: more) :
    more = [] := by
  rcases List.eq_nil_or_concat more with nil | ⟨init, last, concat⟩
  · exact nil
  exfalso
  have pos : 0 < more.length := by simp [concat]
  have value : ofDigits more = n := by
    rw [← ofDigits_digits n, h]
    rfl
  have small : n < 10 ^ more.length := by
    rw [← value]
    refine ofDigits_lt more fun c mem => isDigit_of_mem_digits (n := n) ?_
    rw [h]
    exact List.mem_cons_of_mem _ mem
  have short : (digits n).length ≤ more.length :=
    (Nat.length_toDigits_le_iff (by decide) pos).2 small
  rw [h, List.length_cons] at short
  omega

theorem le_foldl_digits (s : List Char) (n : Nat) :
    n ≤ s.foldl (fun n c => 10 * n + digitValue c) n := by
  induction s generalizing n with
  | nil => exact Nat.le_refl n
  | cons c rest ih =>
    have step := ih (10 * n + digitValue c)
    rw [List.foldl_cons]
    omega

end Text

namespace Json

/-- What can stand behind a value: the end of the text, or what goes on with a container. -/
def Delimited (rest : List Char) : Prop :=
  ∀ c ∈ rest.head?, c = ',' ∨ c = ']' ∨ c = '\x7d'

theorem Delimited.nil : Delimited [] := by
  simp [Delimited]

theorem Delimited.comma (rest : List Char) : Delimited (',' :: rest) := by
  simp [Delimited]

theorem Delimited.bracket (rest : List Char) : Delimited (']' :: rest) := by
  simp [Delimited]

theorem Delimited.brace (rest : List Char) : Delimited ('\x7d' :: rest) := by
  simp [Delimited]

theorem Delimited.peek {rest : List Char} (h : Delimited rest) (place : Place) :
    Cursor.peek ⟨rest, place⟩ = none ∨ Cursor.peek ⟨rest, place⟩ = some ',' ∨
      Cursor.peek ⟨rest, place⟩ = some ']' ∨ Cursor.peek ⟨rest, place⟩ = some '\x7d' := by
  cases rest with
  | nil => exact .inl rfl
  | cons c more => simpa using h c rfl

theorem Delimited.not_isDigit {rest : List Char} (h : Delimited rest) :
    ∀ c ∈ rest.head?, Text.isDigit c = false := by
  intro c mem
  rcases h c mem with rfl | rfl | rfl <;> decide

/-- Digits are taken up to what is no digit as long as they do not pass the limit. -/
theorem takeDigits_append (limit : Nat) {ds rest : List Char}
    (digits : ∀ c ∈ ds, Text.isDigit c = true)
    (stop : ∀ c ∈ rest.head?, Text.isDigit c = false) (value count : Nat)
    (fits : ds.foldl (fun n c => 10 * n + Text.digitValue c) value ≤ limit) :
    takeDigits limit value count (ds ++ rest) =
      (ds.foldl (fun n c => 10 * n + Text.digitValue c) value, count + ds.length, rest) := by
  induction ds generalizing value count with
  | nil =>
    cases rest with
    | nil => rfl
    | cons c more => simp [takeDigits, stop c (by simp)]
  | cons c more ih =>
    have here : value * 10 + Text.digitValue c ≤ limit := by
      have grown := Text.le_foldl_digits more (10 * value + Text.digitValue c)
      rw [List.foldl_cons] at fits
      omega
    have taken := ih (fun d mem => digits d (List.mem_cons_of_mem _ mem))
      (value * 10 + Text.digitValue c) (count + 1) (by rwa [Nat.mul_comm])
    have step : takeDigits limit value count ((c :: more) ++ rest) =
        takeDigits limit (value * 10 + Text.digitValue c) (count + 1) (more ++ rest) := by
      simp [takeDigits, digits c List.mem_cons_self, here]
    rw [step, taken, List.foldl_cons, List.length_cons, Nat.mul_comm value 10,
      Nat.add_assoc count 1, Nat.add_comm 1]

theorem past_of_isDigit {c : Char} (digit : Text.isDigit c = true) (place : Place) :
    Cursor.past place c = ⟨place.line, place.column + 1⟩ := by
  have line : c ≠ '\n' := by
    rintro rfl
    exact absurd digit (by decide)
  have low : c.val ≤ '9'.val := by
    simp only [Text.isDigit, Bool.and_eq_true, decide_eq_true_eq, Char.le_def] at digit
    exact digit.2
  have byte : c.utf8Size = 1 := by
    rw [Char.utf8Size_eq_one_iff]
    exact UInt32.le_trans low (by decide)
  rw [Cursor.past, if_neg line, byte]

/-- Digits stand on one line and are one byte each. -/
theorem Place.behind_digits {ds : List Char} (digits : ∀ c ∈ ds, Text.isDigit c = true)
    (place : Place) : place.behind ds = ⟨place.line, place.column + ds.length⟩ := by
  induction ds generalizing place with
  | nil => rfl
  | cons c more ih =>
    have here := past_of_isDigit (digits c List.mem_cons_self) place
    have after := ih (fun d mem => digits d (List.mem_cons_of_mem _ mem))
    rw [Place.behind_cons, here, after, List.length_cons, Nat.add_assoc, Nat.add_comm 1]

/-- A number that 64 bits hold is taken whole. -/
theorem takeDigits_digits {n : Nat} {rest : List Char} (fits : n ≤ naturalLimit)
    (stop : ∀ c ∈ rest.head?, Text.isDigit c = false) :
    takeDigits naturalLimit 0 0 (Text.digits n ++ rest) =
      (n, (Text.digits n).length, rest) := by
  have value := Text.ofDigits_digits n
  have taken := takeDigits_append naturalLimit
    (fun c mem => Text.isDigit_of_mem_digits mem) stop 0 0 (by rwa [← value] at fits)
  rw [taken, Nat.zero_add]
  exact congrArg (·, _, rest) value

/-- The value of digits behind a sign: the least number of 64 bits is still a whole one. -/
theorem readNumber_digits {n : Nat} {rest : List Char} (negative : Bool)
    (fits : n ≤ naturalLimit) (signed : negative = true → 0 < n ∧ n ≤ twoTo 63)
    (delimited : Delimited rest) (place : Place) :
    readNumber negative ⟨Text.digits n ++ rest, place⟩ =
      .ok (.int (if negative then -n else n), ⟨rest, place.behind (Text.digits n)⟩) := by
  have stop := delimited.not_isDigit
  obtain ⟨c, more, shape⟩ := List.exists_cons_of_ne_nil (Text.digits_ne_nil n)
  have digit : Text.isDigit c = true := Text.isDigit_of_mem_digits (n := n) (by simp [shape])
  -- a zero in front is the whole number, so both ways of taking digits agree
  have taken : (if c = '0' then (0, 1, (Text.digits n ++ rest).tail)
      else takeDigits naturalLimit 0 0 (Text.digits n ++ rest)) =
        (n, (Text.digits n).length, rest) := by
    split
    · rename_i zero
      subst zero
      obtain rfl := Text.eq_nil_of_digits_eq_zero_cons shape
      obtain rfl : n = 0 := by rw [← Text.ofDigits_digits n, shape]; rfl
      rfl
    · exact takeDigits_digits fits stop
  have behind : place.behind (Text.digits n) =
      ⟨place.line, place.column + (Text.digits n).length⟩ :=
    Place.behind_digits (fun c mem => Text.isDigit_of_mem_digits mem) place
  have first : Cursor.peek ⟨Text.digits n ++ rest, place⟩ = some c := by rw [shape]; rfl
  unfold readNumber
  simp only [first, digit, taken, Cursor.passDigits, ← behind]
  cases negative with
  | false =>
    rcases delimited.peek (place.behind (Text.digits n)) with ended | ended | ended | ended <;>
      simp [ended, Text.isDigit]
  | true =>
    have bounds := signed rfl
    have whole : ¬ (n = 0 ∨ twoTo 63 < n) := by omega
    rcases delimited.peek (place.behind (Text.digits n)) with ended | ended | ended | ended <;>
      simp [ended, Text.isDigit, whole]

/-- The whole numbers that 64 bits hold, with a sign or without one. -/
def IsWhole (n : Int) : Prop := -(twoTo 63 : Int) ≤ n ∧ n < twoTo 64

instance (n : Int) : Decidable (IsWhole n) := inferInstanceAs (Decidable (_ ∧ _))

theorem readScalar_of_isDigit {c : Char} (digit : Text.isDigit c = true) (cur : Cursor) :
    readScalar c cur = readNumber false cur := by
  unfold readScalar
  split <;> first | (exfalso; revert digit; decide) | skip
  rw [if_pos digit]

/-- A whole number is read back from its text. -/
theorem readScalar_intText {n : Int} (whole : IsWhole n) {c : Char} {more rest : List Char}
    (shape : intText n = c :: more) (delimited : Delimited rest) (place : Place) :
    readScalar c ⟨intText n ++ rest, place⟩ =
      .ok (.int n, ⟨rest, place.behind (intText n)⟩) := by
  obtain ⟨low, high⟩ := whole
  have bound : n.natAbs ≤ naturalLimit := by
    have small : twoTo 63 < twoTo 64 := by decide
    unfold naturalLimit
    omega
  by_cases negative : n < 0
  · have text : intText n = '-' :: Text.digits n.natAbs := by
      rw [intText, if_pos negative]
      rfl
    obtain ⟨rfl, rfl⟩ : '-' = c ∧ Text.digits n.natAbs = more := by simpa [text] using shape
    have read := readNumber_digits true bound (fun _ => by omega) delimited
      (Cursor.past place '-')
    have value : -(n.natAbs : Int) = n := by omega
    rw [if_pos rfl, value] at read
    rw [text]
    exact read
  · have text : intText n = Text.digits n.natAbs := by
      rw [intText, if_neg negative]
      rfl
    have digit : Text.isDigit c = true :=
      Text.isDigit_of_mem_digits (n := n.natAbs) (by rw [← text, shape]; exact List.mem_cons_self)
    have read := readNumber_digits false bound (by simp) delimited place
    have value : (n.natAbs : Int) = n := by omega
    rw [if_neg Bool.false_ne_true, value] at read
    rw [readScalar_of_isDigit digit, text, read]

end Json

end CatalogSearch
