import CatalogSearch.Index.Match
import CatalogSearch.Proofs.Query.Operators
import CatalogSearch.Proofs.Text.Runs

/-!
# Queries of words

Words with one blank between any two, none of them the operator, compile to a single clause that
asks for all of them, and its terms are the words in lower case.
-/
namespace CatalogSearch.Query

open Text

/-- A text that is a clause on its own compiles to that clause. -/
theorem compile_plain {s : List Char} (nonempty : s ≠ []) (trimmed : Trimmed s)
    (unquoted : '"' ∉ s) (orFree : OrFree s) :
    compile (String.ofList s) = allWords (String.ofList s) := by
  have tidy : Tidy [.plain s nonempty trimmed unquoted orFree] := by
    right
    refine ⟨[], [.plain s nonempty trimmed unquoted orFree], [], rfl, by simp, ?_, by simp⟩
    simp [Alternative.isPhrase]
  have compiled := compile_eq_choice [.plain s nonempty trimmed unquoted orFree]
  rw [partClauses_of_tidy tidy, searchText, List.map_singleton, List.intercalate_singleton]
    at compiled
  exact compiled

/-- A word of letters and numbers that is not the operator. -/
structure PlainWord (word : String) : Prop where
  nonempty : word.toList ≠ []
  letters : ∀ c ∈ word.toList, isAlphanumeric c = true
  notOr : isOr word.toList = false

variable {words : List String}

theorem PlainWord.solid {word : String} (h : PlainWord word) :
    ∀ c ∈ word.toList, isBlank c = false :=
  fun c hc => isBlank_of_isAlphanumeric (h.letters c hc)

theorem mem_intercalate {between : List Char} {texts : List (List Char)} {c : Char}
    (h : c ∈ between.intercalate texts) : c ∈ between ∨ ∃ text ∈ texts, c ∈ text := by
  induction texts with
  | nil => simp at h
  | cons text more ih =>
    cases more with
    | nil => exact .inr ⟨text, by simp, by simpa using h⟩
    | cons next more =>
      rw [List.intercalate_cons_cons, List.append_assoc, List.mem_append, List.mem_append] at h
      obtain here | gap | later := h
      · exact .inr ⟨text, by simp, here⟩
      · exact .inl gap
      · obtain gap | ⟨other, mem, hc⟩ := ih later
        · exact .inl gap
        · exact .inr ⟨other, List.mem_cons_of_mem _ mem, hc⟩

/-- Words with a blank between any two are a clause of all of them. -/
theorem compile_words (some : words ≠ []) (plain : ∀ word ∈ words, PlainWord word) :
    compile (" ".intercalate words) = allWords (" ".intercalate words) := by
  have text : " ".intercalate words =
      String.ofList ([' '].intercalate (words.map String.toList)) := by
    rw [← String.toList_inj, String.toList_intercalate]
    exact String.toList_ofList.symm
  have solid : ∀ t ∈ words.map String.toList, t ≠ [] ∧ ∀ c ∈ t, isBlank c = false := by
    intro t ht
    obtain ⟨word, hword, rfl⟩ := List.mem_map.1 ht
    exact ⟨(plain word hword).nonempty, (plain word hword).solid⟩
  have found : Text.words ([' '].intercalate (words.map String.toList)) =
      words.map String.toList :=
    runs_intercalate (by decide) solid
  rw [text]
  apply compile_plain
  · intro none
    rw [none] at found
    exact some (List.map_eq_nil_iff.1 found.symm)
  · apply trimmed_intercalate
    intro t ht
    obtain ⟨nonempty, solid⟩ := solid t ht
    exact ⟨nonempty, fun c hc => solid c (List.mem_of_head? hc),
      fun c hc => solid c (List.mem_of_getLast? hc)⟩
  · intro quoted
    rcases mem_intercalate quoted with gap | ⟨t, ht, hc⟩
    · simp at gap
    · obtain ⟨word, hword, rfl⟩ := List.mem_map.1 ht
      have quote : isAlphanumeric '"' = false := by decide
      rw [(plain word hword).letters _ hc] at quote
      cases quote
  · rw [OrFree, found]
    intro t ht
    obtain ⟨word, hword, rfl⟩ := List.mem_map.1 ht
    exact (plain word hword).notOr

/-- The terms of the clause are the words in lower case. -/
theorem tokens_words (plain : ∀ word ∈ words, PlainWord word) :
    tokens (" ".intercalate words) = words.map fun word => lowercase word.toList := by
  have solid : ∀ t ∈ words.map String.toList,
      t ≠ [] ∧ ∀ c ∈ t, (!isAlphanumeric c) = false := by
    intro t ht
    obtain ⟨word, hword, rfl⟩ := List.mem_map.1 ht
    exact ⟨(plain word hword).nonempty, fun c hc => by simp [(plain word hword).letters c hc]⟩
  have cut : (!isAlphanumeric ' ') = true := by decide
  have found := runs_intercalate cut solid
  rw [tokens, String.toList_intercalate]
  exact (congrArg (List.map lowercase) found).trans (List.map_map ..)

end CatalogSearch.Query
