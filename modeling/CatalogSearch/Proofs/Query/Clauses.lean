import CatalogSearch.Proofs.Query.Phrases
import CatalogSearch.Proofs.Text.Casing

/-!
# Clauses of a search text

Whatever the search text, the clauses of its query are its phrases and then texts of words, and the
words of these are the words outside the phrases but for operators. The main statement gives the
shape of every query and says which search texts ask for everything.
-/
namespace CatalogSearch.Query

open Text

/-- The word `or` in any case. -/
def IsOperator (word : List Char) : Prop :=
  lowercase word = ['o', 'r']

instance : DecidablePred IsOperator := fun word =>
  inferInstanceAs (Decidable (lowercase word = ['o', 'r']))

theorem isOr_iff {word : List Char} : isOr word = true ↔ IsOperator word := by
  have code (c d : Char) : c = d ↔ c.toNat = d.toNat := Char.toNat_inj.symm
  have letters : ['o', 'r'] = Char.ofNat 111 :: [Char.ofNat 114] := rfl
  rw [IsOperator, lowercase, letters]
  rcases word with - | ⟨a, - | ⟨b, rest⟩⟩
  · simp [lowerFrom, isOr]
  · rw [lowerFrom_eq_cons_iff (by simp)]
    simp [lowerFrom, isOr]
  · rw [lowerFrom_eq_cons_iff (by simp), lowerFrom_eq_cons_iff (by simp), lowerFrom_eq_nil_iff]
    cases rest with
    | nil => simp [isOr, code]
    | cons c rest => simp [isOr]

/-- The words that stay when a text is split at its operators. -/
def stay : List (List Char) → List (List Char)
  | [] => []
  | [word] => [word]
  | word :: next :: more => if isOr word then next :: stay more else word :: stay (next :: more)

theorem stay_sublist (ws : List (List Char)) : (stay ws).Sublist ws := by
  fun_induction stay ws with
  | case1 => exact .slnil
  | case2 word => exact .refl _
  | case3 word next more operator ih => exact (ih.cons_cons next).cons word
  | case4 word next more plain ih => exact ih.cons_cons word

/-- Only operators go. -/
theorem filter_stay (ws : List (List Char)) :
    (stay ws).filter (fun w => !isOr w) = ws.filter fun w => !isOr w := by
  fun_induction stay ws with
  | case1 => rfl
  | case2 word => rfl
  | case3 word next more operator ih => simp [List.filter_cons, operator, ih]
  | case4 word next more plain ih => rw [List.filter_cons, ih, List.filter_cons (x := word)]

/-- A part takes up the words before the next operator, and the word behind an operator begins the
next part. -/
theorem words_splitOr {pre segs : List Segment} (spaced : Spaced (pre ++ segs)) :
    (splitOr (joined pre) segs).flatMap words = pre.map Prod.snd ++ stay (segs.map Prod.snd) := by
  generalize hpart : joined pre = part
  fun_induction splitOr part segs generalizing pre with
  | case1 part =>
    subst hpart
    simp [words_joined spaced.init, stay]
  | case2 part gap word =>
    subst hpart
    have whole : joined pre ++ gap ++ word = joined (pre ++ [(gap, word)]) := by simp
    rw [whole, List.flatMap_singleton, words_joined spaced, List.map_append]
    rfl
  | case3 part gap word gap' word' rest operator ih =>
    subst hpart
    have later : Spaced ([([], word')] ++ rest) := spaced.suffix.tail.flush
    rw [List.flatMap_cons, words_joined spaced.init, ih later (by simp)]
    simp [stay, operator]
  | case4 part gap word gap' word' rest plain ih =>
    subst hpart
    have assoc : Spaced ((pre ++ [(gap, word)]) ++ (gap', word') :: rest) := by
      rw [List.append_assoc]
      exact spaced
    rw [ih assoc (by simp)]
    simp [stay, plain]

theorem shedFirst_sublist {α : Type} (p : α → Bool) (l : List α) : (shedFirst p l).Sublist l := by
  cases l with
  | nil => exact .slnil
  | cons a more =>
    rw [shedFirst]
    split
    · exact List.sublist_cons_self a more
    · exact .refl _

theorem shedLast_sublist {α : Type} (p : α → Bool) (l : List α) : (shedLast p l).Sublist l := by
  rw [shedLast]
  split
  · exact List.dropLast_sublist l
  · exact .refl _

theorem filter_shedFirst {α : Type} (p : α → Bool) (l : List α) :
    (shedFirst p l).filter (fun a => !p a) = l.filter fun a => !p a := by
  cases l with
  | nil => rfl
  | cons a more => by_cases first : p a <;> simp [shedFirst, first]

theorem filter_shedLast {α : Type} (p : α → Bool) (l : List α) :
    (shedLast p l).filter (fun a => !p a) = l.filter fun a => !p a := by
  rcases List.eq_nil_or_concat l with rfl | ⟨init, a, rfl⟩
  · rfl
  · by_cases last : p a <;> simp [shedLast, last]

def partWords : List (List Char) → List (List Char)
  | [] => []
  | word :: more => word :: stay more

theorem words_parts {segs : List Segment} (spaced : Spaced segs) :
    (parts segs).flatMap words = partWords (segs.map Prod.snd) := by
  cases segs with
  | nil => rfl
  | cons seg more =>
    have flushed : Spaced ([([], seg.2)] ++ more) := spaced.flush
    have split := words_splitOr flushed
    simpa [parts, partWords] using split

/-- The parts as the clauses have them: trimmed, and none of them empty. -/
def partTexts (ps : List (List Char)) : List (List Char) :=
  (ps.map trimChars).filter fun p => !p.isEmpty

theorem solid_partTexts {ps : List (List Char)} :
    ∀ text ∈ partTexts ps, text ≠ [] ∧ Trimmed text := by
  intro text htext
  obtain ⟨mem, some⟩ := List.mem_filter.1 htext
  obtain ⟨p, -, rfl⟩ := List.mem_map.1 mem
  exact ⟨by simpa using some, trimmed_trimChars p⟩

theorem words_partTexts (ps : List (List Char)) :
    (partTexts ps).flatMap words = ps.flatMap words := by
  induction ps with
  | nil => rfl
  | cons p ps ih =>
    have here := words_trimChars p
    rw [partTexts] at ih ⊢
    rw [List.map_cons, List.filter_cons, List.flatMap_cons, ← ih]
    split
    · rw [List.flatMap_cons, here]
    · next empty =>
      have none : trimChars p = [] := by simpa using empty
      rw [none] at here
      rw [← here]
      rfl

/-- The texts of the clauses of words, from what is left without the phrases. -/
def clauseTexts (remainder : List Char) : List (List Char) :=
  partTexts (parts (kept remainder))

theorem words_clauseTexts (s : List Char) :
    (clauseTexts s).flatMap words = partWords (shedLast isOr (shedFirst isOr (words s))) := by
  rw [clauseTexts, words_partTexts, words_parts (spaced_kept s), map_snd_kept]

/-- The words of the clauses, in order, are words of what the phrases leave. -/
theorem words_clauseTexts_sublist (s : List Char) :
    ((clauseTexts s).flatMap words).Sublist (words s) := by
  have part (ws : List (List Char)) : (partWords ws).Sublist ws := by
    cases ws with
    | nil => exact .slnil
    | cons word more => exact (stay_sublist more).cons_cons word
  rw [words_clauseTexts]
  exact (part _).trans ((shedLast_sublist _ _).trans (shedFirst_sublist _ _))

/-- No word is lost but operators. -/
theorem filter_words_clauseTexts (s : List Char) :
    ((clauseTexts s).flatMap words).filter (fun w => !isOr w) =
      (words s).filter fun w => !isOr w := by
  have part (ws : List (List Char)) :
      (partWords ws).filter (fun w => !isOr w) = ws.filter fun w => !isOr w := by
    cases ws with
    | nil => rfl
    | cons word more => rw [partWords, List.filter_cons, filter_stay, List.filter_cons (x := word)]
  rw [words_clauseTexts, part, filter_shedLast, filter_shedFirst]

/-- Phrases, and behind them texts of which all words must match. -/
def weightedClauses (phrases texts : List (List Char)) : List Query :=
  phrases.map (fun p => phrase (String.ofList p)) ++ texts.map fun t => allWords (String.ofList t)

theorem compile_leftmost {raw : String} {gaps phrases : List (List Char)}
    (leftmost : LeftmostPhrases (trimChars raw.toList) gaps phrases) :
    compile raw = choice (weightedClauses phrases (clauseTexts gaps.flatten)) := by
  rw [compile, clauses, cutPhrases, cut_leftmost leftmost]
  simp only [alternatives_trimOperators]
  rfl

theorem partWords_eq_nil_iff {ws : List (List Char)} : partWords ws = [] ↔ ws = [] := by
  cases ws <;> simp [partWords]

theorem shed_eq_nil_iff {α : Type} (p : α → Bool) (l : List α) :
    shedLast p (shedFirst p l) = [] ↔ l.length ≤ 2 ∧ ∀ a ∈ l, p a = true := by
  rcases l with - | ⟨a, - | ⟨b, - | ⟨c, more⟩⟩⟩
  · simp [shedFirst, shedLast]
  · by_cases first : p a <;> simp [shedFirst, shedLast, first]
  · by_cases first : p a <;> by_cases second : p b <;> simp [shedFirst, shedLast, first, second]
  · by_cases first : p a <;> simp [shedFirst, shedLast, first] <;> split <;> simp

theorem clauseTexts_eq_nil_iff (s : List Char) :
    clauseTexts s = [] ↔ (words s).length ≤ 2 ∧ ∀ word ∈ words s, isOr word = true := by
  have found : clauseTexts s = [] ↔ (clauseTexts s).flatMap words = [] := by
    rw [List.flatMap_eq_nil_iff]
    constructor
    · intro none
      simp [none]
    · intro wordless
      by_contra some
      obtain ⟨text, mem⟩ := List.exists_mem_of_ne_nil _ some
      obtain ⟨nonempty, trimmed⟩ := solid_partTexts text mem
      exact words_ne_nil nonempty trimmed.1 (wordless text mem)
  rw [found, words_clauseTexts, partWords_eq_nil_iff, shed_eq_nil_iff]

/-- What a query gives to choose from: nothing in particular, one clause, or several. -/
inductive Offers : Query → List Query → Prop
  | everything : Offers .matchAll []
  | single (clause : Query) : Offers clause [clause]
  | several {clauses : List Query} (two : 2 ≤ clauses.length) : Offers (.any clauses) clauses

theorem offers_choice (qs : List Query) : Offers (choice qs) qs := by
  rcases qs with - | ⟨q, - | ⟨r, qs⟩⟩
  · exact .everything
  · exact .single q
  · exact .several (by simp)

theorem choice_eq_matchAll_iff {phrases texts : List (List Char)} :
    choice (weightedClauses phrases texts) = .matchAll ↔ phrases = [] ∧ texts = [] := by
  have weighted : ∀ q ∈ weightedClauses phrases texts, q ≠ .matchAll := by
    intro q hq
    rcases List.mem_append.1 hq with hq | hq
    · obtain ⟨p, -, rfl⟩ := List.mem_map.1 hq
      simp [phrase]
    · obtain ⟨t, -, rfl⟩ := List.mem_map.1 hq
      simp [allWords]
  have none : weightedClauses phrases texts = [] ↔ phrases = [] ∧ texts = [] := by
    simp [weightedClauses]
  rw [← none]
  generalize weightedClauses phrases texts = clauses at weighted
  rcases clauses with - | ⟨q, - | ⟨r, more⟩⟩
  · simp [choice]
  · simpa [choice] using weighted q
  · simp [choice]

theorem phrases_eq_nil_iff {s : List Char} {gaps phrases : List (List Char)}
    (leftmost : LeftmostPhrases s gaps phrases) :
    phrases = [] ↔ ∀ p, Quotable p → ¬ quoted p <:+: s := by
  cases leftmost with
  | none absent => simpa using absent
  | @next gap p rest gaps phrases quotable first later =>
    have here : quoted p <:+: gap ++ (quoted p ++ rest) := ⟨gap, rest, by simp⟩
    simpa using ⟨p, quotable, here⟩

/-- A query is a choice between the leftmost phrases of its trimmed text and then solid texts of
words. It asks for everything exactly when the text is nothing but at most two operators. -/
theorem compile_offers (raw : String) :
    ∃ phrases texts : List (List Char),
      (∀ found, (∃ gaps, LeftmostPhrases (trimChars raw.toList) gaps found) ↔ found = phrases) ∧
      (∀ text ∈ texts, text ≠ [] ∧ Trimmed text) ∧
      Offers (compile raw)
        (phrases.map (fun p => phrase (String.ofList p)) ++
          texts.map fun t => allWords (String.ofList t)) ∧
      (compile raw = .matchAll ↔
        (∀ p, Quotable p → ¬ quoted p <:+: trimChars raw.toList) ∧
          (words (trimChars raw.toList)).length ≤ 2 ∧
            ∀ word ∈ words (trimChars raw.toList), IsOperator word) := by
  obtain ⟨gaps, phrases, leftmost⟩ := exists_leftmost (trimChars raw.toList)
  have compiled := compile_leftmost leftmost
  have unique : phrases = (cutPhrases (trimChars raw.toList)).1 := leftmost_iff.1 ⟨gaps, leftmost⟩
  refine ⟨phrases, clauseTexts gaps.flatten, fun found => ?_, solid_partTexts, ?_, ?_⟩
  · rw [leftmost_iff, unique]
  · rw [compiled]
    exact offers_choice _
  · rw [compiled, choice_eq_matchAll_iff, ← phrases_eq_nil_iff leftmost]
    apply and_congr_right
    rintro rfl
    generalize trimChars raw.toList = s at leftmost
    cases leftmost with
    | none absent =>
      simp only [clauseTexts_eq_nil_iff, isOr_iff, List.flatten_singleton]

end CatalogSearch.Query
