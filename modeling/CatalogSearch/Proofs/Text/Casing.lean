import CatalogSearch.Text.Letters

/-!
# Small letters

In any script, the only characters with the lower case `o` are `o` and `O`, and likewise for `r`: a
lower case that begins with one of these letters comes from a text that begins with it in either
case.
-/
namespace CatalogSearch.Text

/-- Among the first 128 characters, the letter and its capital have the lower case `o` or `r`. -/
theorem toLower_ascii : ∀ n < 128, ∀ k ∈ [111, 114],
    (Char.ofNat n).toLower = Char.ofNat k ↔ n = k ∨ n = k - 32 := by
  decide

/-- No capital beyond the first 128 characters has one of the letters as its lower case. -/
theorem lowercaseRuns_avoid : ∀ r ∈ lowercaseRuns, ∀ k ∈ ([111, 114] : List Nat),
    ¬ ((128 : Int) ≤ k - r.2.2.2 ∧ (r.1 : Int) ≤ k - r.2.2.2 ∧ (k : Int) - r.2.2.2 ≤ r.2.1) := by
  decide +kernel

/-- A number that is no code point stands for the character zero. -/
theorem toNat_ofNat (n : Nat) : (Char.ofNat n).toNat = n ∨ (Char.ofNat n).toNat = 0 := by
  by_cases valid : n.isValidChar
  · exact .inl (by rw [Char.ofNat, dif_pos valid]; rfl)
  · exact .inr (by rw [Char.ofNat, dif_neg valid]; rfl)

variable {c : Char} {k : Nat} {t : List Char}

theorem lowerChar_eq_cons_iff (letter : k ∈ [111, 114]) :
    lowerChar c = Char.ofNat k :: t ↔ (c.toNat = k ∨ c.toNat = k - 32) ∧ [] = t := by
  have small : k = 111 ∨ k = 114 := by simpa using letter
  unfold lowerChar
  by_cases ascii : c.toNat < 128
  · have here := toLower_ascii c.toNat ascii k letter
    rw [Char.ofNat_toNat] at here
    simp [ascii, here]
  · have other : ¬ (c.toNat = k ∨ c.toNat = k - 32) := by omega
    have code : (Char.ofNat k).toNat = k := by
      obtain rfl | rfl := small <;> rfl
    simp only [ascii, if_false, other, false_and, iff_false]
    intro lower
    split at lower
    · have dotted := (List.cons.inj lower).1
      obtain rfl | rfl := small <;> exact absurd dotted (by decide)
    · split at lower
      · next r found =>
        have inside := List.find?_some found
        have apart := lowercaseRuns_avoid r (List.mem_of_find?_eq_some found) k letter
        simp only [Bool.and_eq_true, decide_eq_true_eq] at inside
        have same := congrArg Char.toNat (List.cons.inj lower).1
        rw [code] at same
        obtain valid | zero := toNat_ofNat ((c.toNat : Int) + r.2.2.2).toNat <;> omega
      · have same := congrArg Char.toNat (List.cons.inj lower).1
        omega

theorem lowerChar_ne_nil (c : Char) : lowerChar c ≠ [] := by
  unfold lowerChar
  dsimp only
  repeat' split
  all_goals simp

theorem lowerFrom_eq_nil_iff {before s : List Char} : lowerFrom before s = [] ↔ s = [] := by
  cases s with
  | nil => simp [lowerFrom]
  | cons c rest =>
    simp only [lowerFrom, List.append_eq_nil_iff, reduceCtorEq, iff_false, not_and]
    intro none
    split at none
    · split at none <;> simp at none
    · exact absurd none (lowerChar_ne_nil c)

/-- A lower case begins with one of the letters where the text begins with it or its capital. -/
theorem lowerFrom_eq_cons_iff (letter : k ∈ [111, 114]) {before rest : List Char} :
    lowerFrom before (c :: rest) = Char.ofNat k :: t ↔
      (c.toNat = k ∨ c.toNat = k - 32) ∧ lowerFrom (c :: before) rest = t := by
  have small : k = 111 ∨ k = 114 := by simpa using letter
  by_cases sigma : c = 'Σ'
  · subst sigma
    have final : 'ς' ≠ Char.ofNat k ∧ 'σ' ≠ Char.ofNat k := by
      obtain rfl | rfl := small <;> decide
    have other : ¬ ('Σ'.toNat = k ∨ 'Σ'.toNat = k - 32) := by
      obtain rfl | rfl := small <;> decide
    rw [lowerFrom, if_pos (by decide)]
    simp only [other, false_and, iff_false]
    intro lower
    split at lower
    · exact final.1 (List.cons.inj lower).1
    · exact final.2 (List.cons.inj lower).1
  · have here : lowerFrom before (c :: rest) = lowerChar c ++ lowerFrom (c :: before) rest := by
      simp [lowerFrom, sigma]
    rw [here, List.append_eq_cons_iff]
    constructor
    · rintro (⟨none, -⟩ | ⟨others, lower, rfl⟩)
      · exact absurd none (lowerChar_ne_nil c)
      · obtain ⟨same, rfl⟩ := (lowerChar_eq_cons_iff letter).1 lower
        exact ⟨same, rfl⟩
    · rintro ⟨same, rfl⟩
      exact .inr ⟨[], (lowerChar_eq_cons_iff letter).2 ⟨same, rfl⟩, rfl⟩

end CatalogSearch.Text
