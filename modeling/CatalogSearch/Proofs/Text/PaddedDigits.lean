import CatalogSearch.Text.Digits
import Mathlib.Algebra.Group.Nat.Defs

/-!
# Padded numbers

A number that fits its width is written with exactly that many digits, and the digits denote it.
-/
namespace CatalogSearch.Text

/-- The characters of a padded number. -/
theorem toList_padded (width n : Nat) :
    (padded width n).toList = List.replicate (width - (digits n).length) '0' ++ digits n := by
  rw [padded, padLeft, String.toList_ofList]

theorem isDigit_of_mem_padded {width n : Nat} {c : Char} (h : c ∈ (padded width n).toList) :
    isDigit c = true := by
  rw [toList_padded, List.mem_append] at h
  rcases h with h | h
  · rw [List.eq_of_mem_replicate h]
    decide
  · have hdigit : c.isDigit = true := Nat.isDigit_of_mem_toDigits (by decide) (by decide) h
    simpa [isDigit, Char.isDigit, Char.le_def] using hdigit

theorem ofDigits_padded (width n : Nat) : ofDigits (padded width n).toList = n := by
  change Nat.ofDigitChars 10 (padded width n).toList 0 = n
  rw [toList_padded, Nat.ofDigitChars_append, Nat.ofDigitChars_replicate_zero, Nat.mul_zero]
  exact Nat.ofDigitChars_ten_toDigits

theorem length_padded {width n : Nat} (pos : 0 < width) (fits : n < 10 ^ width) :
    (padded width n).toList.length = width := by
  have hlen : (digits n).length ≤ width := (Nat.length_toDigits_le_iff (by decide) pos).2 fits
  rw [toList_padded, List.length_append, List.length_replicate]
  omega

theorem digitValue_le_nine {c : Char} (h : isDigit c = true) : digitValue c ≤ 9 := by
  simp only [isDigit, Bool.and_eq_true, decide_eq_true_eq, Char.le_def] at h
  have hle : c.val.toNat ≤ '9'.val.toNat := h.2
  have hnine : '9'.val.toNat = 57 := by decide
  change c.val.toNat - 48 ≤ 9
  omega

theorem foldl_digits_lt (s : List Char) (h : ∀ c ∈ s, isDigit c = true) (n : Nat) :
    s.foldl (fun n c => 10 * n + digitValue c) n < (n + 1) * 10 ^ s.length := by
  induction s generalizing n with
  | nil => simp
  | cons c rest ih =>
    have hvalue := digitValue_le_nine (h c (by simp))
    calc
      (c :: rest).foldl (fun n c => 10 * n + digitValue c) n
        < (10 * n + digitValue c + 1) * 10 ^ rest.length :=
          ih (fun c hc => h c (by simp [hc])) _
      _ ≤ (10 * (n + 1)) * 10 ^ rest.length := Nat.mul_le_mul_right _ (by omega)
      _ = (n + 1) * 10 ^ (c :: rest).length := by
          rw [List.length_cons, Nat.pow_succ, Nat.mul_comm 10 (n + 1), Nat.mul_assoc,
            Nat.mul_comm 10]

/-- No text of digits denotes more than its length allows. -/
theorem ofDigits_lt (s : List Char) (h : ∀ c ∈ s, isDigit c = true) :
    ofDigits s < 10 ^ s.length := by
  simpa [ofDigits] using foldl_digits_lt s h 0

end CatalogSearch.Text
