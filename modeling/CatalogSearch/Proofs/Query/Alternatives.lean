import CatalogSearch.Proofs.Query.Segments

/-!
# Alternatives written as a search text

A search text written as alternatives around `OR`, each a phrase in quotes or some words. Cutting
out the phrases finds exactly theirs and leaves the operators that stood around them.
-/
namespace CatalogSearch.Query

open Text

/-- No word of the text is the operator. -/
def OrFree (s : List Char) : Prop :=
  ∀ word ∈ words s, isOr word = false

instance (s : List Char) : Decidable (OrFree s) :=
  inferInstanceAs (Decidable (∀ word ∈ words s, isOr word = false))

/-- A phrase, or words that must all match. -/
inductive Alternative where
  | phrase (text : List Char) (nonempty : text ≠ []) (unquoted : '"' ∉ text)
  | plain (text : List Char) (nonempty : text ≠ []) (trimmed : Trimmed text)
      (unquoted : '"' ∉ text) (orFree : OrFree text)

namespace Alternative

def isPhrase : Alternative → Bool
  | phrase .. => true
  | plain .. => false

def written : Alternative → List Char
  | phrase text .. => '"' :: text ++ ['"']
  | plain text .. => text

/-- What stays of an alternative when the phrases are cut out. -/
def leftover : Alternative → List Char
  | phrase .. => []
  | plain text .. => text

def phraseText : Alternative → Option (List Char)
  | phrase text .. => some text
  | plain .. => none

def plainText : Alternative → Option (List Char)
  | phrase .. => none
  | plain text .. => some text

end Alternative

def operator : List Char := [' ', 'O', 'R', ' ']

/-- The alternatives with the operator between them. -/
def searchText (alts : List Alternative) : String :=
  String.ofList (operator.intercalate (alts.map Alternative.written))

/-- A choice between the phrases and then the words, each group in order. -/
def meaning (alts : List Alternative) : Query :=
  choice ((alts.filterMap Alternative.phraseText).map (fun p => phrase (String.ofList p)) ++
    (alts.filterMap Alternative.plainText).map fun p => allWords (String.ofList p))

/-- At most one phrase on each side of the words, or at most three phrases and no words. -/
def Tidy (alts : List Alternative) : Prop :=
  (alts.length ≤ 3 ∧ ∀ a ∈ alts, a.isPhrase) ∨
    ∃ before terms after, alts = before ++ terms ++ after ∧
      (before.length ≤ 1 ∧ ∀ a ∈ before, a.isPhrase) ∧ (∀ a ∈ terms, a.isPhrase = false) ∧
      (after.length ≤ 1 ∧ ∀ a ∈ after, a.isPhrase)

theorem cut_unquoted {s : List Char} (unquoted : '"' ∉ s) (t : List Char) :
    cut none (s ++ t) = ((cut none t).1, s ++ (cut none t).2) := by
  induction s with
  | nil => rfl
  | cons c s ih =>
    simp only [List.mem_cons, not_or] at unquoted
    simp [cut, Ne.symm unquoted.1, ih unquoted.2]

theorem cut_open {s : List Char} (unquoted : '"' ∉ s) (run t : List Char)
    (nonempty : run ≠ [] ∨ s ≠ []) :
    cut (some run) (s ++ '"' :: t) =
      ((run.reverse ++ s) :: (cut none t).1, (cut none t).2) := by
  induction s generalizing run with
  | nil =>
    have some : run ≠ [] := by simpa using nonempty
    simp [cut, some]
  | cons c s ih =>
    simp only [List.mem_cons, not_or] at unquoted
    simp [cut, Ne.symm unquoted.1, ih unquoted.2 (c :: run) (.inl (by simp))]

theorem cut_written (a : Alternative) (t : List Char) :
    cut none (a.written ++ t) =
      (a.phraseText.toList ++ (cut none t).1, a.leftover ++ (cut none t).2) := by
  cases a with
  | phrase text nonempty unquoted =>
    have closed := cut_open unquoted [] t (.inr nonempty)
    simpa [Alternative.written, Alternative.phraseText, Alternative.leftover, cut] using closed
  | plain text nonempty trimmed unquoted orFree =>
    simp [Alternative.written, Alternative.phraseText, Alternative.leftover,
      cut_unquoted unquoted]

def leftovers (alts : List Alternative) : List Char :=
  operator.intercalate (alts.map Alternative.leftover)

theorem cutPhrases_written (alts : List Alternative) :
    cutPhrases (operator.intercalate (alts.map Alternative.written)) =
      (alts.filterMap Alternative.phraseText, leftovers alts) := by
  induction alts with
  | nil => rfl
  | cons a more ih =>
    cases more with
    | nil =>
      have alone := cut_written a []
      rw [List.append_nil] at alone
      rw [List.map_singleton, List.intercalate_singleton, cutPhrases, alone, leftovers,
        List.map_singleton, List.intercalate_singleton, cut, List.append_nil, List.append_nil]
      cases a <;> rfl
    | cons b more =>
      have between : '"' ∉ operator := by decide
      rw [cutPhrases] at ih ⊢
      rw [List.map_cons, List.map_cons, List.intercalate_cons_cons, List.append_assoc,
        cut_written, cut_unquoted between, ← List.map_cons, ih]
      simp only [leftovers, List.map_cons, List.intercalate_cons_cons, List.append_assoc]
      cases a <;> rfl

/-- Trimmed texts put together stay trimmed, whatever stands between them. -/
theorem trimmed_intercalate {between : List Char} {texts : List (List Char)}
    (solid : ∀ t ∈ texts, t ≠ [] ∧ Trimmed t) : Trimmed (between.intercalate texts) := by
  induction texts with
  | nil => exact ⟨by simp, by simp⟩
  | cons t more ih =>
    obtain ⟨nonempty, trimmed⟩ := solid t (by simp)
    cases more with
    | nil => simpa using trimmed
    | cons u more =>
      have rest := ih fun v hv => solid v (by simp [hv])
      have some : between.intercalate (u :: more) ≠ [] := by
        have first := (solid u (by simp)).1
        cases more <;> simp [first]
      rw [List.intercalate_cons_cons]
      constructor
      · rw [List.append_assoc, List.head?_append_of_ne_nil _ nonempty]
        exact trimmed.1
      · rw [List.getLast?_append_of_ne_nil _ some]
        exact rest.2

theorem trimmed_written (alts : List Alternative) :
    Trimmed (operator.intercalate (alts.map Alternative.written)) := by
  apply trimmed_intercalate
  intro t ht
  obtain ⟨a, -, rfl⟩ := List.mem_map.1 ht
  cases a with
  | phrase text nonempty unquoted =>
    have blank : isBlank '"' = false := by decide
    simp [Alternative.written, Trimmed, blank, List.getLast?_cons]
  | plain text nonempty trimmed unquoted orFree => exact ⟨nonempty, trimmed⟩

/-- The parts between the operators of a text, from its segments. -/
def parts : List Segment → List (List Char)
  | [] => [[]]
  | (_, word) :: more => splitOr word more

theorem alternatives_trimOperators (s : List Char) :
    alternatives (trimOperators s) = parts (kept s) := by
  rw [alternatives, segments_trimOperators]
  cases kept s <;> rfl

/-- The clauses of some parts: those that are not blank, trimmed. -/
def partClauses (ps : List (List Char)) : List Query :=
  ((ps.map trimChars).filter fun p => !p.isEmpty).map fun p => allWords (String.ofList p)

theorem compile_eq_choice (alts : List Alternative) :
    compile (searchText alts) =
      choice ((alts.filterMap Alternative.phraseText).map (fun p => phrase (String.ofList p)) ++
        partClauses (parts (kept (leftovers alts)))) := by
  rw [compile, searchText, String.toList_ofList, trimChars_eq_self (trimmed_written alts), clauses,
    cutPhrases_written]
  simp only [alternatives_trimOperators]
  rfl

theorem leftover_last_solid (a : Alternative) :
    ∀ c ∈ a.leftover.getLast?, isBlank c = false := by
  cases a with
  | phrase => simp [Alternative.leftover]
  | plain text nonempty trimmed unquoted orFree => exact trimmed.2

theorem leftovers_last_solid {alts : List Alternative} (plain : ∀ a ∈ alts, a.isPhrase = false) :
    ∀ c ∈ (leftovers alts).getLast?, isBlank c = false := by
  refine (trimmed_intercalate fun t ht => ?_).2
  obtain ⟨a, ha, rfl⟩ := List.mem_map.1 ht
  cases a with
  | phrase => simpa [Alternative.isPhrase] using plain _ ha
  | plain text nonempty trimmed unquoted orFree => exact ⟨nonempty, trimmed⟩

theorem segments_leftovers (a b : Alternative) (more : List Alternative) :
    segments (leftovers (a :: b :: more)) =
      segments a.leftover ++
        ([' '], ['O', 'R']) :: widen [' '] (segments (leftovers (b :: more))) := by
  have blank : isBlank ' ' = true := by decide
  have solid : isBlank 'R' = false := by decide
  have text : leftovers (a :: b :: more) =
      a.leftover ++ ([' '] ++ (['O', 'R'] ++ ([' '] ++ leftovers (b :: more)))) := by
    simp [leftovers, operator]
  rw [text, segments_append (leftover_last_solid a) (by simp [blank]),
    segments_gap (by simp [blank]), segments_append (by simp [solid]) (by simp [blank]),
    segments_gap (by simp [blank])]
  rfl

/-- The words that stand behind an alternative: those of the others, each behind an operator. -/
def follow (alts : List Alternative) : List (List Char) :=
  alts.flatMap fun a => ['O', 'R'] :: words a.leftover

theorem words_leftovers (a : Alternative) (more : List Alternative) :
    (segments (leftovers (a :: more))).map Prod.snd = words a.leftover ++ follow more := by
  induction more generalizing a with
  | nil => simp [leftovers, follow, words_eq_segments]
  | cons b more ih =>
    have widened (segs : List Segment) :
        (widen [' '] segs).map Prod.snd = segs.map Prod.snd := by
      cases segs <;> rfl
    rw [segments_leftovers, List.map_append, List.map_cons, widened, ih, ← words_eq_segments]
    rfl

theorem words_plain {a : Alternative} (plain : a.isPhrase = false) :
    words a.leftover ≠ [] ∧ ∀ word ∈ words a.leftover, isOr word = false := by
  cases a with
  | phrase => simp [Alternative.isPhrase] at plain
  | plain text nonempty trimmed unquoted orFree =>
    exact ⟨words_ne_nil nonempty trimmed.1, orFree⟩

theorem leftover_phrase {a : Alternative} (phrase : a.isPhrase) : a.leftover = [] := by
  cases a with
  | phrase => rfl
  | plain => simp [Alternative.isPhrase] at phrase

theorem words_phrase {a : Alternative} (phrase : a.isPhrase) : words a.leftover = [] := by
  rw [leftover_phrase phrase]
  rfl

end CatalogSearch.Query
