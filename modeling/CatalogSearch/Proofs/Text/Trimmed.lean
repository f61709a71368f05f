import CatalogSearch.Text.Blank
import Mathlib.Data.List.DropRight

/-!
# Trimmed texts

Trimming takes the blanks at both ends away and nothing else, so a trimmed text stays as it is.
-/
namespace CatalogSearch.Text

/-- A text without a blank at either end. -/
def Trimmed (s : List Char) : Prop :=
  (∀ c ∈ s.head?, isBlank c = false) ∧ (∀ c ∈ s.getLast?, isBlank c = false)

instance (s : List Char) : Decidable (Trimmed s) :=
  decidable_of_iff ((s.head?.all fun c => !isBlank c) = true ∧
    (s.getLast?.all fun c => !isBlank c) = true) <| by
      unfold Trimmed
      cases s.head? <;> cases s.getLast? <;> simp

theorem dropLeading_eq_self {s : List Char} (h : ∀ c ∈ s.head?, isBlank c = false) :
    dropLeading s = s := by
  cases s with
  | nil => rfl
  | cons c rest => exact List.dropWhile_cons_of_neg (by simp [h c rfl])

theorem trimChars_eq_self {s : List Char} (h : Trimmed s) : trimChars s = s := by
  rw [trimChars, dropLeading_eq_self h.1]
  refine List.rdropWhile_eq_self_iff.2 fun nonempty => ?_
  rw [h.2 _ (List.getLast_mem_getLast? nonempty)]
  exact Bool.false_ne_true

theorem trimmed_trimChars (s : List Char) : Trimmed (trimChars s) := by
  constructor
  · intro c hc
    -- What is left after the trailing blanks are gone begins as the text did before.
    obtain ⟨tail, htail⟩ := List.rdropWhile_prefix isBlank (dropLeading s)
    have hhead : (s.dropWhile isBlank).head? = some c := by
      change (List.rdropWhile isBlank (dropLeading s)).head? = some c at hc
      rw [← dropLeading, ← htail, List.head?_append, hc]
      rfl
    have hfirst := List.head?_dropWhile_not isBlank s
    rw [hhead] at hfirst
    exact hfirst
  · intro c hc
    obtain ⟨nonempty, rfl⟩ := List.mem_getLast?_eq_getLast hc
    exact Bool.eq_false_iff.2 (List.rdropWhile_last_not isBlank (dropLeading s) nonempty)

/-- Trimming takes nothing out of the middle of a text. -/
theorem trimChars_isInfix (s : List Char) : trimChars s <:+: s :=
  (List.rdropWhile_prefix isBlank (dropLeading s)).isInfix.trans
    (List.dropWhile_suffix isBlank).isInfix

end CatalogSearch.Text
