import CatalogSearch.Text.Blank
import Mathlib.Data.List.TakeDrop
import Mathlib.Data.List.TakeWhile

/-!
# Pieces of a text

Parts without a separator, put behind each other with separators, are the pieces of the whole. A
text is split where its first part ends.
-/
namespace CatalogSearch.Text

theorem pieces_append {cut : Char → Bool} {piece : List Char} (whole : ∀ c ∈ piece, cut c = false)
    {c : Char} (hcut : cut c = true) (rest : List Char) :
    pieces cut (piece ++ c :: rest) = piece :: pieces cut rest := by
  have inside : (piece ++ c :: rest).foldr (pieces.step cut) ([], []) =
      (piece, pieces cut rest) := by
    induction piece with
    | nil => simp [pieces, pieces.step, hcut]
    | cons d piece ih =>
      rw [List.cons_append, List.foldr_cons, ih fun e he => whole e (List.mem_cons_of_mem _ he)]
      simp [pieces.step, whole d]
  rw [pieces, inside]

theorem pieces_whole {cut : Char → Bool} {piece : List Char}
    (whole : ∀ c ∈ piece, cut c = false) : pieces cut piece = [piece] := by
  have inside : piece.foldr (pieces.step cut) ([], []) = (piece, []) := by
    induction piece with
    | nil => rfl
    | cons d piece ih =>
      rw [List.foldr_cons, ih fun e he => whole e (List.mem_cons_of_mem _ he)]
      simp [pieces.step, whole d]
  rw [pieces, inside]

/-- Whole parts with a separator between any two are read back. -/
theorem pieces_intercalate {cut : Char → Bool} {parts : List (List Char)} (some : parts ≠ [])
    (whole : ∀ part ∈ parts, ∀ c ∈ part, cut c = false) {c : Char} (hcut : cut c = true) :
    pieces cut ([c].intercalate parts) = parts := by
  induction parts with
  | nil => exact absurd rfl some
  | cons part rest ih =>
    have solid : ∀ d ∈ part, cut d = false := whole part List.mem_cons_self
    cases rest with
    | nil => simpa using pieces_whole solid
    | cons next rest =>
      have later := ih (by simp) fun other mem => whole other (List.mem_cons_of_mem _ mem)
      rw [List.intercalate_cons_cons, List.append_assoc, List.singleton_append,
        pieces_append solid hcut, later]

theorem splitAt_whole {cut : Char → Bool} {s : List Char} (whole : ∀ c ∈ s, cut c = false) :
    splitAt cut s = (s, none) := by
  have keeps : ∀ d ∈ s, (!cut d) = true := fun d mem => by rw [whole d mem]; rfl
  have parts : s.span (fun d => !cut d) = (s, []) := by
    rw [List.span_eq_takeWhile_dropWhile, List.takeWhile_eq_self_iff.2 keeps,
      List.dropWhile_eq_nil_iff.2 keeps]
  rw [splitAt, parts]

theorem splitAt_append {cut : Char → Bool} {before : List Char}
    (whole : ∀ c ∈ before, cut c = false) {c : Char} (hcut : cut c = true) (after : List Char) :
    splitAt cut (before ++ c :: after) = (before, some after) := by
  have keeps : ∀ d ∈ before, (!cut d) = true := fun d mem => by rw [whole d mem]; rfl
  have stops : (!cut c) = false := by rw [hcut]; rfl
  have parts : (before ++ c :: after).span (fun d => !cut d) = (before, c :: after) := by
    rw [List.span_eq_takeWhile_dropWhile, List.takeWhile_append_of_pos keeps,
      List.dropWhile_append_of_pos keeps, List.takeWhile_cons_of_neg (by simp [stops]),
      List.dropWhile_cons_of_neg (by simp [stops]), List.append_nil]
  rw [splitAt, parts]

end CatalogSearch.Text
