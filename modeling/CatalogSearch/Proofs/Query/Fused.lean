import CatalogSearch.Proofs.Query.Unquoted
import CatalogSearch.Proofs.Text.Runs

/-!
# Words beside phrases

Cutting out a phrase leaves nothing in its place, so two words that only phrases keep apart come out
as one. The main statement says that the words of the clauses are words of the search text where
there are no such two, and that such two become one word of a clause otherwise.
-/
namespace CatalogSearch.Query

open Text

/-- A character of a word: neither a blank nor a quote. -/
def isWordChar (c : Char) : Bool :=
  !(isBlank c || c == '"')

/-- The words `u` and `v` stand on the two sides of phrases with nothing else between them. -/
structure Fused (gaps : List (List Char)) (u v : List Char) : Prop where
  nonempty : u ≠ [] ∧ v ≠ []
  solid : ∀ c ∈ u ++ v, isWordChar c = true
  place : ∃ before after left right, gaps = left ++ right ∧
    left.flatten = before ++ u ∧ right.flatten = v ++ after ∧
    (∀ c ∈ before.getLast?, isWordChar c = false) ∧ ∀ c ∈ after.head?, isWordChar c = false

def bareWords (s : List Char) : List (List Char) :=
  runs (fun c => !isWordChar c) s

theorem mem_bareWords_iff {word s : List Char} :
    word ∈ bareWords s ↔ MaximalRun isWordChar word s :=
  mem_runs_iff

theorem bareWords_append {s t : List Char}
    (apart : (∀ c ∈ s.getLast?, isWordChar c = false) ∨ ∀ c ∈ t.head?, isWordChar c = false) :
    bareWords (s ++ t) = bareWords s ++ bareWords t :=
  runs_append (by simpa using apart)

theorem bareWords_eq (s : List Char) : bareWords s = (words s).flatMap (runs (· == '"')) := by
  have both : (fun c => !isWordChar c) = fun c => isBlank c || c == '"' := by
    funext c
    rw [isWordChar, Bool.not_not]
  rw [bareWords, both, runs_or]
  rfl

/-- Where gaps meet, a word ends on one side at most. -/
def Parted (gaps : List (List Char)) : Prop :=
  ∀ left right, gaps = left ++ right →
    (∀ c ∈ left.flatten.getLast?, isWordChar c = false) ∨
      ∀ c ∈ right.flatten.head?, isWordChar c = false

theorem Parted.tail {gap : List Char} {gaps : List (List Char)} (parted : Parted (gap :: gaps)) :
    Parted gaps := by
  rintro left right rfl
  refine (parted (gap :: left) right rfl).imp_left fun last c hc => last c ?_
  rw [List.flatten_cons, List.getLast?_append, hc, Option.some_or]
  rfl

theorem parted_of_not_fused {gaps : List (List Char)} (free : ∀ u v, ¬ Fused gaps u v) :
    Parted gaps := by
  intro left right split
  by_contra joint
  obtain ⟨⟨c, hc, last⟩, d, hd, first⟩ := by simpa using joint
  obtain ⟨before, u, lead, solid, start⟩ := exists_last_run isWordChar left.flatten
  obtain ⟨v, after, tail, solid', stop⟩ := exists_first_run isWordChar right.flatten
  refine free u v ⟨⟨?_, ?_⟩, ?_, before, after, left, right, split, lead, tail, start, stop⟩
  · rintro rfl
    rw [List.append_nil] at lead
    simp [start c (lead ▸ hc)] at last
  · rintro rfl
    rw [List.nil_append] at tail
    simp [stop d (tail ▸ hd)] at first
  · intro e he
    exact (List.mem_append.1 he).elim (solid e) (solid' e)

theorem bareWords_flatten {gaps : List (List Char)} (parted : Parted gaps) :
    bareWords gaps.flatten = gaps.flatMap bareWords := by
  induction gaps with
  | nil => rfl
  | cons gap gaps ih =>
    have apart := parted [gap] gaps rfl
    rw [List.flatten_singleton] at apart
    rw [List.flatten_cons, bareWords_append apart, ih parted.tail, List.flatMap_cons]

/-- The quotes around a phrase keep its words apart from those of the gaps. -/
theorem bareWords_leftmost {s : List Char} {gaps phrases : List (List Char)}
    (leftmost : LeftmostPhrases s gaps phrases) {gap word : List Char} (hgap : gap ∈ gaps)
    (hword : word ∈ bareWords gap) : word ∈ bareWords s := by
  have quote : isWordChar '"' = false := by decide
  induction leftmost with
  | none absent =>
    obtain rfl := List.mem_singleton.1 hgap
    exact hword
  | @next first p rest gaps phrases quotable _ later ih =>
    have text : bareWords (first ++ (quoted p ++ rest)) =
        bareWords first ++ (bareWords (quoted p) ++ bareWords rest) := by
      rw [bareWords_append (.inr (by simp [quoted, quote])),
        bareWords_append (.inl (by simp [quoted, List.getLast?_cons, quote]))]
    rw [text, List.mem_append, List.mem_append]
    obtain rfl | hgap := List.mem_cons.1 hgap
    · exact .inl hword
    · exact .inr (.inr (ih hgap))

/-- A word of a clause is a word of what the phrases leave. -/
theorem mem_bareWords_of_clause {s text word : List Char} (htext : text ∈ clauseTexts s)
    (hword : word ∈ bareWords text) : word ∈ bareWords s := by
  rw [bareWords_eq, List.mem_flatMap] at hword ⊢
  obtain ⟨chunk, hchunk, hword⟩ := hword
  have stays := (words_clauseTexts_sublist s).subset (List.mem_flatMap.2 ⟨text, htext, hchunk⟩)
  exact ⟨chunk, stays, hword⟩

theorem unquoted_of_isOr {word : List Char} (operator : isOr word = true) :
    word ≠ [] ∧ ∀ c ∈ word, (c == '"') = false := by
  rcases word with - | ⟨a, - | ⟨b, - | ⟨c, more⟩⟩⟩
  · simp [isOr] at operator
  · simp [isOr] at operator
  · simp only [isOr, Bool.and_eq_true, Bool.or_eq_true, decide_eq_true_eq] at operator
    obtain ⟨rfl | rfl, rfl | rfl⟩ := operator <;> simp
  · simp [isOr] at operator

/-- A word of what the phrases leave is a word of a clause, unless it is the operator. -/
theorem exists_clause {s word : List Char} (hword : word ∈ bareWords s)
    (plain : ¬ IsOperator word) : ∃ text ∈ clauseTexts s, word ∈ bareWords text := by
  rw [bareWords_eq, List.mem_flatMap] at hword
  obtain ⟨chunk, hchunk, hword⟩ := hword
  have solid : isOr chunk = false := by
    by_contra operator
    rw [Bool.not_eq_false] at operator
    have letters : chunk ≠ [] ∧ ∀ c ∈ chunk, (c == '"') = false := unquoted_of_isOr operator
    rw [runs_solid letters.1 letters.2, List.mem_singleton] at hword
    exact plain (isOr_iff.1 (hword ▸ operator))
  have stays : chunk ∈ ((clauseTexts s).flatMap words).filter fun w => !isOr w := by
    rw [filter_words_clauseTexts]
    exact List.mem_filter.2 ⟨hchunk, by simp [solid]⟩
  obtain ⟨text, htext, hchunk⟩ := List.mem_flatMap.1 (List.mem_filter.1 stays).1
  refine ⟨text, htext, ?_⟩
  rw [bareWords_eq, List.mem_flatMap]
  exact ⟨chunk, hchunk, hword⟩

/-- Where phrases keep no two words apart, every word of a clause of words is a word of the search
text. Two words that only phrases keep apart become one word of a clause, unless they make the
operator. -/
theorem compile_keeps_words (raw : String) :
    ∃ gaps phrases,
      (∀ gaps' phrases', LeftmostPhrases (trimChars raw.toList) gaps' phrases' ↔
        gaps' = gaps ∧ phrases' = phrases) ∧
      ((∀ u v, ¬ Fused gaps u v) →
        ∀ text word, allWords (String.ofList text) ∈ clausesOf (compile raw) →
          MaximalRun isWordChar word text → MaximalRun isWordChar word raw.toList) ∧
      ∀ u v, Fused gaps u v → ¬ IsOperator (u ++ v) →
        ∃ text, allWords (String.ofList text) ∈ clausesOf (compile raw) ∧
          MaximalRun isWordChar (u ++ v) text := by
  obtain ⟨gaps, phrases, leftmost⟩ := exists_leftmost (trimChars raw.toList)
  have clause (text : List Char) :
      allWords (String.ofList text) ∈ clausesOf (compile raw) ↔
        text ∈ clauseTexts gaps.flatten := by
    rw [compile_leftmost leftmost, weightedClauses, allWords_mem_choice]
  refine ⟨gaps, phrases, fun gaps' phrases' => ?_, fun free text word htext hword => ?_,
    fun u v fused plain => ?_⟩
  · refine ⟨leftmost.unique, ?_⟩
    rintro ⟨rfl, rfl⟩
    exact leftmost
  · rw [clause] at htext
    rw [← mem_bareWords_iff] at hword ⊢
    have left := mem_bareWords_of_clause htext hword
    rw [bareWords_flatten (parted_of_not_fused free), List.mem_flatMap] at left
    obtain ⟨gap, hgap, hword⟩ := left
    have own := bareWords_leftmost leftmost hgap hword
    rwa [bareWords_eq, words_trimChars, ← bareWords_eq] at own
  · obtain ⟨before, after, left, right, rfl, lead, tail, start, stop⟩ := fused.place
    have run : MaximalRun isWordChar (u ++ v) (left ++ right).flatten := by
      refine ⟨by simp [fused.nonempty], fused.solid, before, after, ?_, start, stop⟩
      rw [List.flatten_append, lead, tail]
      simp
    obtain ⟨text, htext, hword⟩ := exists_clause (mem_bareWords_iff.2 run) plain
    exact ⟨text, (clause text).2 htext, mem_bareWords_iff.1 hword⟩

/-- A phrase between two words makes a word of them that is not in the text. -/
theorem compile_fuses_words :
    compile "health\"food\"data" = .any [phrase "food", allWords "healthdata"] ∧
      MaximalRun isWordChar "healthdata".toList "healthdata".toList ∧
      ¬ MaximalRun isWordChar "healthdata".toList "health\"food\"data".toList := by
  refine ⟨rfl, ?_, ?_⟩
  · rw [← mem_bareWords_iff]
    decide
  · rw [← mem_bareWords_iff]
    decide

end CatalogSearch.Query
