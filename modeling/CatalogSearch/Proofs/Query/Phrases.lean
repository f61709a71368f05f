import CatalogSearch.Proofs.Query.Operators

/-!
# Phrases of a search text

Read from the left, the first text between two quotes is a phrase, and the next one is looked for
behind it. Cutting out the phrases of a text finds exactly these and leaves the gaps around them
joined together.
-/
namespace CatalogSearch.Query

open Text

/-- A text that can be a phrase. -/
def Quotable (p : List Char) : Prop :=
  p ≠ [] ∧ '"' ∉ p

def quoted (p : List Char) : List Char :=
  '"' :: p ++ ['"']

/-- The phrases of a text from the left, each the first that begins behind the one before, and the
gaps before, between and behind them. -/
inductive LeftmostPhrases : List Char → List (List Char) → List (List Char) → Prop
  | none {s : List Char} (absent : ∀ p, Quotable p → ¬ quoted p <:+: s) :
      LeftmostPhrases s [s] []
  | next {gap p rest : List Char} {gaps phrases : List (List Char)} (quotable : Quotable p)
      (first : ∀ behind, behind <:+ gap → behind ≠ [] →
        ∀ p', Quotable p' → ¬ quoted p' <+: behind ++ (quoted p ++ rest))
      (later : LeftmostPhrases rest gaps phrases) :
      LeftmostPhrases (gap ++ (quoted p ++ rest)) (gap :: gaps) (p :: phrases)

/-- A quote before another character begins a phrase if a further quote follows. -/
theorem exists_quoted_isPrefix {c : Char} {s : List Char} (solid : c ≠ '"') (closed : '"' ∈ s) :
    ∃ p, Quotable p ∧ quoted p <+: '"' :: c :: s := by
  obtain ⟨text, rest, rfl, unquoted⟩ := List.eq_append_cons_of_mem closed
  refine ⟨c :: text, ⟨by simp, ?_⟩, rest, by simp [quoted]⟩
  simpa using ⟨Ne.symm solid, unquoted⟩

theorem cut_unclosed {s : List Char} (unquoted : '"' ∉ s) (run : List Char) :
    cut (some run) s = ([], '"' :: (run.reverse ++ s)) := by
  induction s generalizing run with
  | nil => simp [cut]
  | cons c s ih =>
    simp only [List.mem_cons, not_or] at unquoted
    simp [cut, Ne.symm unquoted.1, ih unquoted.2]

theorem cut_quote (s : List Char) : cut none ('"' :: s) = cut (some []) s := by
  simp [cut]

/-- Of two quotes in a row the first is ordinary text. -/
theorem cut_quotes (s : List Char) :
    cut none ('"' :: '"' :: s) =
      ((cut none ('"' :: s)).1, '"' :: (cut none ('"' :: s)).2) := by
  simp [cut]

/-- Cutting passes over a gap in which no phrase begins. -/
theorem cut_gap {gap tail : List Char} (front : ∀ c ∈ tail.head?, c = '"')
    (free : ∀ behind, behind <:+ gap → behind ≠ [] →
      ∀ p, Quotable p → ¬ quoted p <+: behind ++ tail) :
    cut none (gap ++ tail) = ((cut none tail).1, gap ++ (cut none tail).2) := by
  induction gap with
  | nil => rfl
  | cons c gap ih =>
    have later := ih fun behind h => free behind (h.trans (List.suffix_cons c gap))
    by_cases quote : c = '"'
    · subst quote
      have here := free _ (List.suffix_refl _) (List.cons_ne_nil '"' gap)
      rw [List.cons_append] at here ⊢
      -- What stands behind the quote: nothing, another quote, or a text that is not closed.
      rcases htext : gap ++ tail with - | ⟨d, text⟩
      · obtain ⟨rfl, rfl⟩ := List.append_eq_nil_iff.1 htext
        rfl
      · rw [htext] at here later
        by_cases again : d = '"'
        · subst again
          rw [cut_quotes, later]
          rfl
        · have unquoted : '"' ∉ d :: text := by
            intro quote
            have closed : '"' ∈ text := (List.mem_cons.1 quote).resolve_left (Ne.symm again)
            obtain ⟨p, quotable, lead⟩ := exists_quoted_isPrefix again closed
            exact here p quotable lead
          have none : tail = [] := by
            rw [← htext] at unquoted
            cases tail with
            | nil => rfl
            | cons e tail => simp [front e rfl] at unquoted
          subst none
          rw [cut_quote, cut_unclosed unquoted, ← htext]
          simp [cut]
    · simp [cut, quote, later]

theorem cut_quoted {p : List Char} (quotable : Quotable p) (rest : List Char) :
    cut none (quoted p ++ rest) = (p :: (cut none rest).1, (cut none rest).2) := by
  have closed := cut_open quotable.2 [] rest (.inr quotable.1)
  simpa [quoted, cut_quote] using closed

/-- Cutting finds the phrases from the left and joins the gaps. -/
theorem cut_leftmost {s : List Char} {gaps phrases : List (List Char)}
    (leftmost : LeftmostPhrases s gaps phrases) : cut none s = (phrases, gaps.flatten) := by
  induction leftmost with
  | @none s absent =>
    have free : ∀ behind, behind <:+ s → behind ≠ [] →
        ∀ p, Quotable p → ¬ quoted p <+: behind ++ [] := by
      intro behind suffix _ p quotable lead
      rw [List.append_nil] at lead
      exact absent p quotable (lead.isInfix.trans suffix.isInfix)
    have passed := cut_gap (by simp) free
    simpa [cut] using passed
  | @next gap p rest gaps phrases quotable first later ih =>
    rw [cut_gap (by simp [quoted]) first, cut_quoted quotable, ih]
    rfl

/-- The first phrase of a text, if there is one. -/
theorem exists_first (s : List Char) :
    (∀ p, Quotable p → ¬ quoted p <:+: s) ∨
      ∃ gap p rest, Quotable p ∧ s = gap ++ (quoted p ++ rest) ∧
        ∀ behind, behind <:+ gap → behind ≠ [] →
          ∀ p', Quotable p' → ¬ quoted p' <+: behind ++ (quoted p ++ rest) := by
  induction s with
  | nil => exact .inl fun p _ => by simp [quoted]
  | cons c s ih =>
    by_cases here : ∃ p, Quotable p ∧ quoted p <+: c :: s
    · obtain ⟨p, quotable, rest, text⟩ := here
      refine .inr ⟨[], p, rest, quotable, text.symm, ?_⟩
      intro behind suffix some
      exact absurd (List.suffix_nil.1 suffix) some
    · have none (p : List Char) (quotable : Quotable p) : ¬ quoted p <+: c :: s :=
        fun lead => here ⟨p, quotable, lead⟩
      obtain absent | ⟨gap, p, rest, quotable, rfl, first⟩ := ih
      · refine .inl fun p quotable infix_ => ?_
        exact (List.infix_cons_iff.1 infix_).elim (none p quotable) (absent p quotable)
      · refine .inr ⟨c :: gap, p, rest, quotable, rfl, ?_⟩
        intro behind suffix some
        obtain rfl | suffix := List.suffix_cons_iff.1 suffix
        · exact none
        · exact first behind suffix some

theorem exists_leftmost (s : List Char) : ∃ gaps phrases, LeftmostPhrases s gaps phrases := by
  obtain absent | ⟨gap, p, rest, quotable, text, first⟩ := exists_first s
  · exact ⟨_, _, .none absent⟩
  · have shorter : rest.length < s.length := by
      simp only [text, quoted, List.length_append, List.length_cons]
      omega
    obtain ⟨gaps, phrases, later⟩ := exists_leftmost rest
    rw [text]
    exact ⟨_, _, .next quotable first later⟩
termination_by s.length

/-- The gap before the first phrase ends before any other phrase begins. -/
theorem gap_isPrefix {gap p rest gap' p' rest' : List Char} (quotable : Quotable p)
    (text : gap ++ (quoted p ++ rest) = gap' ++ (quoted p' ++ rest'))
    (first : ∀ behind, behind <:+ gap' → behind ≠ [] →
      ∀ p, Quotable p → ¬ quoted p <+: behind ++ (quoted p' ++ rest')) : gap' <+: gap := by
  obtain ⟨behind, longer, here⟩ | ⟨behind, shorter, -⟩ := List.append_eq_append_iff.1 text
  · by_cases none : behind = []
    · simp [longer, none]
    · have suffix : behind <:+ gap' := ⟨gap, longer.symm⟩
      exact absurd ⟨rest, here⟩ (first behind suffix none p quotable)
  · exact ⟨behind, shorter.symm⟩

/-- A text has its phrases in one way only. -/
theorem LeftmostPhrases.unique {s : List Char} {gaps phrases gaps' phrases' : List (List Char)}
    (leftmost : LeftmostPhrases s gaps phrases) (leftmost' : LeftmostPhrases s gaps' phrases') :
    gaps' = gaps ∧ phrases' = phrases := by
  induction leftmost generalizing gaps' phrases' with
  | none absent =>
    cases leftmost' with
    | none => exact ⟨rfl, rfl⟩
    | @next gap p rest _ _ quotable => exact absurd ⟨gap, rest, by simp⟩ (absent p quotable)
  | @next gap p rest gaps phrases quotable first _ ih =>
    generalize text : gap ++ (quoted p ++ rest) = s at leftmost'
    cases leftmost' with
    | none absent => exact absurd ⟨gap, rest, by simp [← text]⟩ (absent p quotable)
    | @next gap' p' rest' gaps' phrases' quotable' first' later' =>
      have ahead := gap_isPrefix quotable text first'
      have behind := gap_isPrefix quotable' text.symm first
      obtain rfl := ahead.eq_of_length (le_antisymm ahead.length_le behind.length_le)
      have here := List.append_cancel_left text
      have cuts := congrArg (cut .none) here
      rw [cut_quoted quotable, cut_quoted quotable'] at cuts
      obtain rfl : p = p' := (List.cons.inj (congrArg Prod.fst cuts)).1
      obtain rfl := List.append_cancel_left here
      obtain ⟨rfl, rfl⟩ := ih later'
      exact ⟨rfl, rfl⟩

/-- A text has one list of phrases, and it is what cutting finds. -/
theorem leftmost_iff {s : List Char} {phrases : List (List Char)} :
    (∃ gaps, LeftmostPhrases s gaps phrases) ↔ phrases = (cutPhrases s).1 := by
  constructor
  · rintro ⟨gaps, leftmost⟩
    rw [cutPhrases, cut_leftmost leftmost]
  · rintro rfl
    obtain ⟨gaps, phrases, leftmost⟩ := exists_leftmost s
    exact ⟨gaps, by rwa [cutPhrases, cut_leftmost leftmost]⟩

end CatalogSearch.Query
