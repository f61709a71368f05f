import CatalogSearch.Proofs.Text.PercentCoding
import Mathlib.Data.String.Basic

/-!
# The order of UTF-8 bytes

Texts are in the order of their characters just if they are in the order of their bytes: the codes
of two characters differ first in a byte that is less for the smaller character.
-/
namespace CatalogSearch.Text

open String (utf8EncodeChar)

theorem append_lt_append_left_iff (c s t : List UInt8) : c ++ s < c ++ t ↔ s < t := by
  induction c with
  | nil => exact Iff.rfl
  | cons b rest ih => simp [ih]

theorem ofNat_lt_ofNat {m n : Nat} (less : m < n) (byte : n < 256) :
    UInt8.ofNat m < UInt8.ofNat n := by
  rw [UInt8.lt_iff_toNat_lt, UInt8.toNat_ofNat_of_lt' (Nat.lt_trans less byte),
    UInt8.toNat_ofNat_of_lt' byte]
  exact less

/-- The bytes behind the first one of a code: the last `count` digits of the code point in base
64. -/
def followers : Nat → Nat → List UInt8
  | 0, _ => []
  | count + 1, n => followers count (n / 64) ++ [UInt8.ofNat (n % 64 + 128)]

/-- Where smaller code points do not differ in their first byte, they do so in a later one. -/
theorem followers_append_lt (count : Nat) {m n : Nat} (less : m < n) (s t : List UInt8) :
    m / 64 ^ count < n / 64 ^ count ∨
      m / 64 ^ count = n / 64 ^ count ∧ followers count m ++ s < followers count n ++ t := by
  induction count generalizing m n s t with
  | zero => exact .inl (by simpa using less)
  | succ count ih =>
    simp only [followers, List.append_assoc, Nat.pow_succ', ← Nat.div_div_eq_div_mul]
    rcases Nat.lt_or_eq_of_le (Nat.div_le_div_right (c := 64) less.le) with higher | same
    · exact ih higher _ _
    · refine .inr ⟨congrArg (· / 64 ^ count) same, ?_⟩
      rw [same, append_lt_append_left_iff]
      exact .rel (ofNat_lt_ofNat (by omega) (by omega))

/-- The code of a character: a first byte, which tells how many others follow, and these. -/
inductive Coded (n : Nat) : List UInt8 → Prop where
  | one : n < 128 → Coded n (UInt8.ofNat n :: followers 0 n)
  | two : 128 ≤ n → n < 2048 → Coded n (UInt8.ofNat (192 + n / 64 ^ 1) :: followers 1 n)
  | three : 2048 ≤ n → n < 65536 → Coded n (UInt8.ofNat (224 + n / 64 ^ 2) :: followers 2 n)
  | four : 65536 ≤ n → n < 1114112 → Coded n (UInt8.ofNat (240 + n / 64 ^ 3) :: followers 3 n)

theorem coded_utf8EncodeChar (c : Char) : Coded c.toNat (utf8EncodeChar c) := by
  have bound : c.toNat < 1114112 := by
    have valid : c.toNat.isValidChar := c.valid
    unfold Nat.isValidChar at valid
    omega
  have byte {first value most : Nat} (small : value < most) :
      UInt8.ofNat (value % most + first) = UInt8.ofNat (first + value) := by
    rw [Nat.mod_eq_of_lt small, Nat.add_comm]
  unfold utf8EncodeChar
  have value : c.val.toNat = c.toNat := rfl
  simp only [value]
  split
  · next short => exact .one (by omega)
  · split
    · next short =>
      rw [byte (show c.toNat / 64 < 32 by omega)]
      exact .two (by omega) (by omega)
    · split
      · next short =>
        rw [byte (show c.toNat / 4096 < 16 by omega)]
        exact .three (by omega) (by omega)
      · have third : c.toNat / 4096 = c.toNat / 64 / 64 :=
          (Nat.div_div_eq_div_mul c.toNat 64 64).symm
        rw [byte (show c.toNat / 262144 < 8 by omega), third]
        exact .four (by omega) (by omega)

/-- Whatever follows, the code of a smaller character comes first. -/
theorem Coded.append_lt {m n : Nat} {code code' : List UInt8} (h : Coded m code)
    (h' : Coded n code') (less : m < n) (s t : List UInt8) : code ++ s < code' ++ t := by
  have lead {first last : Nat} {s t : List UInt8} (lower : first < last) (byte : last < 256) :
      UInt8.ofNat first :: s < UInt8.ofNat last :: t := .rel (ofNat_lt_ofNat lower byte)
  have follow {first count : Nat} (byte : first + n / 64 ^ count < 256) :
      UInt8.ofNat (first + m / 64 ^ count) :: followers count m ++ s <
        UInt8.ofNat (first + n / 64 ^ count) :: followers count n ++ t := by
    rcases followers_append_lt count less s t with lower | ⟨same, later⟩
    · exact lead (by omega) byte
    · rw [same]
      exact .cons later
  cases h with
  | one hm =>
    cases h' with
    | one hn => exact lead less (by omega)
    | _ => exact lead (by omega) (by omega)
  | two low hm =>
    cases h' with
    | one hn => omega
    | two _ hn => exact follow (by omega)
    | _ => exact lead (by omega) (by omega)
  | three low hm =>
    cases h' with
    | three _ hn => exact follow (by omega)
    | four _ hn => exact lead (by omega) (by omega)
    | _ => omega
  | four low hm =>
    cases h' with
    | four _ hn => exact follow (by omega)
    | _ => omega

theorem flatMap_utf8EncodeChar_lt {s t : List Char} (less : s < t) :
    s.flatMap utf8EncodeChar < t.flatMap utf8EncodeChar := by
  induction s generalizing t with
  | nil =>
    cases t with
    | nil => cases less
    | cons d rest =>
      rw [List.flatMap_cons]
      cases code : utf8EncodeChar d with
      | nil => exact absurd code (by simp)
      | cons b more => exact List.nil_lt_cons ..
  | cons c s ih =>
    cases t with
    | nil => cases less
    | cons d rest =>
      rw [List.flatMap_cons, List.flatMap_cons]
      rcases List.cons_lt_cons_iff.1 less with first | ⟨rfl, later⟩
      · exact (coded_utf8EncodeChar c).append_lt (coded_utf8EncodeChar d) first _ _
      · exact (append_lt_append_left_iff _ _ _).2 (ih later)

/-- The order of texts is the order of their bytes. -/
theorem utf8_lt_utf8_iff {s t : String} : utf8 s < utf8 t ↔ s < t := by
  have grows {s t : String} (less : s < t) : utf8 s < utf8 t := by
    rw [utf8_eq, utf8_eq]
    exact flatMap_utf8EncodeChar_lt less
  refine ⟨fun less => ?_, grows⟩
  rcases lt_trichotomy s t with h | rfl | h
  · exact h
  · exact absurd less (List.lt_irrefl _)
  · exact absurd less (List.lt_asymm (grows h))

end CatalogSearch.Text
