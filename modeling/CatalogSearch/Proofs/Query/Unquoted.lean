import CatalogSearch.Proofs.Query.Clauses

/-!
# Search texts without quotes

Between its operators, a search text without quotes holds stretches of other words. Where no two
operators stand side by side, the query is a choice between these stretches, each just as it is
written.
-/
namespace CatalogSearch.Query

open Text

/-- The longest stretches of words other than the operator, each from the first character of its
first word to the last of its last one. -/
inductive Stretches : List Char → List (List Char) → Prop
  | none {s : List Char} (operators : ∀ word ∈ words s, IsOperator word) : Stretches s []
  | next {lead text rest : List Char} {texts : List (List Char)}
      (operators : ∀ word ∈ words lead, IsOperator word)
      (start : ∀ c ∈ lead.getLast?, isBlank c = true)
      (nonempty : text ≠ []) (trimmed : Trimmed text)
      (free : ∀ word ∈ words text, ¬ IsOperator word)
      (stop : ∀ c ∈ rest.head?, isBlank c = true)
      (longest : ∀ word ∈ (words rest).head?, IsOperator word)
      (later : Stretches rest texts) :
      Stretches (lead ++ (text ++ rest)) (text :: texts)

theorem words_joined_append_blanks {segs : List Segment} {blanks : List Char}
    (spaced : Spaced segs) (hblanks : ∀ c ∈ blanks, isBlank c = true) :
    words (joined segs ++ blanks) = segs.map Prod.snd := by
  have none : segments blanks = [] := by
    simpa [segments, widen] using segments_gap hblanks []
  rw [words_eq_segments, segments_append spaced.last_solid
    fun c hc => hblanks c (List.mem_of_head? hc), none, List.append_nil, segments_joined spaced]

/-- The first stretch of some segments. -/
theorem exists_stretch (segs : List Segment) :
    (∀ seg ∈ segs, IsOperator seg.2) ∨
      ∃ before seg inside behind, segs = before ++ seg :: (inside ++ behind) ∧
        (∀ other ∈ before, IsOperator other.2) ∧
        (∀ other ∈ seg :: inside, ¬ IsOperator other.2) ∧
        ∀ other ∈ behind.head?, IsOperator other.2 := by
  induction segs with
  | nil => exact .inl (by simp)
  | cons seg segs ih =>
    by_cases operator : IsOperator seg.2
    · obtain none | ⟨before, first, inside, behind, rfl, operators, free, stop⟩ := ih
      · exact .inl (by simpa using ⟨operator, fun gap word => none (gap, word)⟩)
      · refine .inr ⟨seg :: before, first, inside, behind, rfl, ?_, free, stop⟩
        simpa using ⟨operator, fun gap word => operators (gap, word)⟩
    · let plain (other : Segment) : Bool := !isOr other.2
      have cut : segs = segs.takeWhile plain ++ segs.dropWhile plain :=
        List.takeWhile_append_dropWhile.symm
      refine .inr ⟨[], seg, segs.takeWhile plain, segs.dropWhile plain, by rw [← cut]; rfl,
        by simp, ?_, ?_⟩
      · intro other hother
        rcases List.mem_cons.1 hother with rfl | hother
        · exact operator
        · have free := List.mem_takeWhile_imp hother
          rw [← isOr_iff]
          simpa [plain] using free
      · intro other hother
        have stop := List.head?_dropWhile_not plain segs
        rw [hother] at stop
        rw [← isOr_iff]
        simpa [plain] using stop

theorem exists_stretches (s : List Char) : ∃ texts, Stretches s texts := by
  obtain ⟨blanks, hblanks, text⟩ := eq_joined_segments s
  have spaced := spaced_segments s
  obtain none | ⟨before, ⟨gap, word⟩, inside, behind, split, operators, free, stop⟩ :=
    exists_stretch (segments s)
  · refine ⟨[], .none ?_⟩
    rw [words_eq_segments, List.forall_mem_map]
    exact none
  · rw [split] at text spaced
    have nonempty : word ≠ [] := (spaced.word (gap, word) (by simp)).1
    have blank := spaced.gap (gap, word) (by simp)
    have onwards : Spaced ((gap, word) :: inside ++ behind) := spaced.suffix
    have whole : s = (joined before ++ gap) ++
        ((word ++ joined inside) ++ (joined behind ++ blanks)) := by
      rw [text]
      simp
    have shorter : (joined behind ++ blanks).length < s.length := by
      have := List.length_pos_iff.2 nonempty
      simp only [whole, List.length_append]
      omega
    obtain ⟨texts, later⟩ := exists_stretches (joined behind ++ blanks)
    have stretch : word ++ joined inside = joined (flush ((gap, word) :: inside)) := by
      simp [flush]
    rw [whole]
    refine ⟨_, .next ?_ ?_ (by simp [nonempty]) ?_ ?_ ?_ ?_ later⟩
    · rw [words_joined_append_blanks spaced.init blank, List.forall_mem_map]
      exact operators
    · intro c hc
      cases before with
      | nil => exact blank c (List.mem_of_getLast? hc)
      | cons first before =>
        have apart : gap ≠ [] := spaced.apart (gap, word) (by simp)
        rw [List.getLast?_append_of_ne_nil _ apart] at hc
        exact blank c (List.mem_of_getLast? hc)
    · rw [stretch]
      exact onwards.init.trimmed_flush
    · rw [stretch, words_joined onwards.init.flush, map_snd_flush, List.forall_mem_map]
      exact free
    · intro c hc
      rw [List.head?_append] at hc
      cases hhead : (joined behind).head? with
      | none => exact hblanks c (List.mem_of_head? (by simpa [hhead] using hc))
      | some d =>
        have first := onwards.head_blank_of_append (by simp) d hhead
        obtain rfl : d = c := by simpa [hhead] using hc
        exact first
    · rw [words_joined_append_blanks onwards.suffix hblanks, List.head?_map]
      intro next hnext
      obtain ⟨seg, hseg, rfl⟩ := Option.map_eq_some_iff.1 hnext
      exact stop seg hseg
termination_by s.length
decreasing_by simpa using shorter

/-- Blanks at the end of a text widen the gap before what follows. -/
theorem segments_lead {lead : List Char} (start : ∀ c ∈ lead.getLast?, isBlank c = true)
    (t : List Char) : ∃ gap, segments (lead ++ t) = segments lead ++ widen gap (segments t) := by
  obtain ⟨blanks, hblanks, text⟩ := eq_joined_segments lead
  have spaced := spaced_segments lead
  cases blanks with
  | nil =>
    rcases List.eq_nil_or_concat lead with rfl | ⟨init, c, rfl⟩
    · refine ⟨[], ?_⟩
      cases hsegs : segments t <;> simp [segments, widen, hsegs]
    · exfalso
      have blank : isBlank c = true := start c (by simp)
      rw [List.append_nil] at text
      have solid := spaced.last_solid c (by rw [← text]; simp)
      rw [blank] at solid
      cases solid
  | cons c blanks =>
    refine ⟨c :: blanks, ?_⟩
    have split : segments (joined (segments lead) ++ (c :: blanks ++ t)) =
        segments (joined (segments lead)) ++ segments (c :: blanks ++ t) :=
      segments_append spaced.last_solid (by simpa using hblanks c (by simp))
    rw [segments_joined spaced, segments_gap hblanks, ← List.append_assoc, ← text] at split
    exact split

theorem segments_stretch {lead text rest : List Char}
    (start : ∀ c ∈ lead.getLast?, isBlank c = true) (nonempty : text ≠ []) (trimmed : Trimmed text)
    (stop : ∀ c ∈ rest.head?, isBlank c = true) :
    ∃ gap word more, word ++ joined more = text ∧
      words text = ((gap, word) :: more).map Prod.snd ∧
      segments (lead ++ (text ++ rest)) =
        segments lead ++ ((gap, word) :: more ++ segments rest) := by
  obtain ⟨gap, split⟩ := segments_lead start (text ++ rest)
  have whole := trimChars_eq_joined text
  have found := words_eq_segments text
  have some := words_ne_nil nonempty trimmed.1
  rw [trimChars_eq_self trimmed] at whole
  rw [segments_append trimmed.2 stop] at split
  rcases hsegs : segments text with - | ⟨⟨first, word⟩, more⟩ <;> rw [hsegs] at whole found split
  · exact absurd found some
  · refine ⟨gap ++ first, word, more, by simpa [flush] using whole.symm, found, ?_⟩
    simpa [widen] using split

theorem words_stretch {lead text rest : List Char}
    (start : ∀ c ∈ lead.getLast?, isBlank c = true) (nonempty : text ≠ []) (trimmed : Trimmed text)
    (stop : ∀ c ∈ rest.head?, isBlank c = true) :
    words (lead ++ (text ++ rest)) = words lead ++ (words text ++ words rest) := by
  obtain ⟨gap, word, more, -, found, split⟩ := segments_stretch start nonempty trimmed stop
  rw [words_eq_segments, split, found, words_eq_segments lead, words_eq_segments rest]
  simp

def OperatorsApart (ws : List (List Char)) : Prop :=
  ws.IsChain fun word next => ¬ (IsOperator word ∧ IsOperator next)

instance (ws : List (List Char)) : Decidable (OperatorsApart ws) :=
  inferInstanceAs (Decidable (ws.IsChain fun word next => ¬ (IsOperator word ∧ IsOperator next)))

theorem OperatorsApart.length_le {ws : List (List Char)} (apart : OperatorsApart ws)
    (operators : ∀ word ∈ ws, IsOperator word) : ws.length ≤ 1 := by
  rcases ws with - | ⟨word, - | ⟨next, ws⟩⟩
  · simp
  · simp
  · have both : IsOperator word ∧ IsOperator next := ⟨operators _ (by simp), operators _ (by simp)⟩
    exact absurd both (List.isChain_cons_cons.1 apart).1

/-- A text of operators that stand apart holds one at most. -/
theorem OperatorsApart.segments_cases {s : List Char} (apart : OperatorsApart (words s))
    (operators : ∀ word ∈ words s, IsOperator word) :
    segments s = [] ∨ ∃ gap operator, segments s = [(gap, operator)] ∧ isOr operator = true := by
  have few := apart.length_le operators
  rw [words_eq_segments] at few operators
  generalize segments s = segs at few operators
  rcases segs with - | ⟨⟨gap, operator⟩, - | ⟨next, segs⟩⟩
  · exact .inl rfl
  · exact .inr ⟨gap, operator, rfl, isOr_iff.2 (operators operator (by simp))⟩
  · simp at few

theorem OperatorsApart.lead {ws more : List (List Char)} (apart : OperatorsApart (ws ++ more)) :
    OperatorsApart ws :=
  (List.isChain_append.1 apart).1

theorem OperatorsApart.rest {ws more : List (List Char)} (apart : OperatorsApart (ws ++ more)) :
    OperatorsApart more :=
  (List.isChain_append.1 apart).2.1

theorem shedLast_append_of_last {α : Type} {p : α → Bool} {l : List α}
    (last : ∀ a ∈ l.getLast?, p a = false) (more : List α) :
    shedLast p (l ++ more) = l ++ shedLast p more := by
  cases more with
  | nil =>
    rw [List.append_nil, shedLast]
    cases hlast : l.getLast? with
    | none => simp [shedLast]
    | some a => simp [shedLast, last a hlast]
  | cons a more => exact shedLast_append p l (by simp)

/-- Words before the first operator, if there is one, go into the first part. -/
theorem splitOr_append_free {segs : List Segment} (free : ∀ seg ∈ segs, isOr seg.2 = false)
    (part : List Char) (rest : List Segment) :
    splitOr part (segs ++ rest) = splitOr (part ++ joined segs) rest := by
  cases rest with
  | nil => rw [List.append_nil, splitOr_free free, splitOr]
  | cons seg rest => exact splitOr_append free part _ (by simp)

theorem partTexts_cons {p : List Char} (nonempty : p ≠ []) (trimmed : Trimmed p)
    (ps : List (List Char)) : partTexts (p :: ps) = p :: partTexts ps := by
  simp [partTexts, trimChars_eq_self trimmed, nonempty]

theorem isOr_of_free {segs : List Segment} (free : ∀ w ∈ segs.map Prod.snd, ¬ IsOperator w) :
    ∀ seg ∈ segs, isOr seg.2 = false := by
  intro seg hseg
  have plain := free seg.2 (List.mem_map_of_mem hseg)
  rw [← isOr_iff] at plain
  simpa using plain

/-- Behind a stretch, only what follows it can lose an operator at its end. -/
theorem shedLast_stretch {segs : List Segment} (free : ∀ w ∈ segs.map Prod.snd, ¬ IsOperator w)
    (rest : List Segment) : shedLast endsInOr (segs ++ rest) = segs ++ shedLast endsInOr rest :=
  shedLast_append_of_last (fun seg hseg => isOr_of_free free seg (List.mem_of_getLast? hseg)) rest

/-- A stretch of words is one part. -/
theorem splitOr_stretch {gap word : List Char} {more : List Segment}
    (free : ∀ w ∈ ((gap, word) :: more).map Prod.snd, ¬ IsOperator w) (rest : List Segment) :
    splitOr word (more ++ rest) = splitOr (word ++ joined more) rest :=
  splitOr_append_free (isOr_of_free fun w hw => free w (List.mem_cons_of_mem _ hw)) word rest

/-- Behind a part, the parts that follow are the stretches. -/
theorem partTexts_splitOr {rest : List Char} {texts : List (List Char)}
    (stretches : Stretches rest texts) (apart : OperatorsApart (words rest))
    (front : ∀ word ∈ (words rest).head?, IsOperator word) {part : List Char}
    (solid : part ≠ []) (trimmed : Trimmed part) :
    partTexts (splitOr part (shedLast endsInOr (segments rest))) = part :: texts := by
  induction stretches generalizing part with
  | @none s operators =>
    have dropped : shedLast endsInOr (segments s) = [] := by
      obtain none | ⟨gap, operator, one, isOperator⟩ := apart.segments_cases operators
      · rw [none]
        rfl
      · simp [one, shedLast, endsInOr, isOperator]
    rw [dropped, splitOr, partTexts_cons solid trimmed]
    rfl
  | @next lead text rest texts operators start nonempty inner free stop longest later ih =>
    obtain ⟨gap, word, more, whole, found, split⟩ := segments_stretch start nonempty inner stop
    rw [words_stretch start nonempty inner stop] at apart front
    have behind := ih apart.rest.rest longest nonempty inner
    rw [found] at free front
    obtain none | ⟨before, operator, one, isOperator⟩ := apart.lead.segments_cases operators
    · -- With no operator before it, the stretch would stand first.
      rw [words_eq_segments lead, none] at front
      exact absurd (front word (by simp)) (free word (by simp))
    · have first : shedLast endsInOr ([(before, operator)] ++
            ((gap, word) :: more ++ segments rest)) =
          [(before, operator)] ++ shedLast endsInOr ((gap, word) :: more ++ segments rest) :=
        shedLast_append endsInOr _ (by simp)
      rw [split, one, first, shedLast_stretch free, List.singleton_append, List.cons_append,
        splitOr, if_pos isOperator, partTexts_cons solid trimmed, splitOr_stretch free, whole,
        behind]

/-- Where operators stand apart, the clauses of words are the stretches. -/
theorem clauseTexts_stretches {s : List Char} {texts : List (List Char)}
    (stretches : Stretches s texts) (apart : OperatorsApart (words s)) :
    clauseTexts s = texts := by
  cases stretches with
  | none operators =>
    rw [clauseTexts_eq_nil_iff]
    have few := apart.length_le operators
    exact ⟨by omega, fun word hword => isOr_iff.2 (operators word hword)⟩
  | @next lead text rest texts operators start nonempty trimmed free stop longest later =>
    obtain ⟨gap, word, more, whole, found, split⟩ := segments_stretch start nonempty trimmed stop
    rw [words_stretch start nonempty trimmed stop] at apart
    have behind := partTexts_splitOr later apart.rest.rest longest nonempty trimmed
    rw [found] at free
    have opened : flush (shedFirst endsInOr (segments (lead ++ (text ++ rest)))) =
        ([], word) :: more ++ segments rest := by
      have plain : isOr word = false := isOr_of_free free (gap, word) (by simp)
      obtain none | ⟨before, operator, one, isOperator⟩ := apart.lead.segments_cases operators
      · simp [split, none, shedFirst, endsInOr, plain, flush]
      · simp [split, one, shedFirst, endsInOr, isOperator, flush]
    have own : ∀ w ∈ (([], word) :: more : List Segment).map Prod.snd, ¬ IsOperator w := free
    rw [clauseTexts, kept, opened, shedLast_stretch own, List.cons_append, parts,
      splitOr_stretch free, whole, behind]

theorem clauseTexts_trimChars (s : List Char) : clauseTexts (trimChars s) = clauseTexts s := by
  have again (segs : List Segment) :
      flush (shedFirst endsInOr (flush segs)) = flush (shedFirst endsInOr segs) := by
    cases segs with
    | nil => rfl
    | cons seg more =>
      by_cases operator : isOr seg.2 <;> simp [flush, shedFirst, endsInOr, operator]
  rw [clauseTexts, kept, segments_trimChars, again, clauseTexts, kept]

/-- The words of the stretches are those of the text without its operators. -/
theorem words_stretches {s : List Char} {texts : List (List Char)} (stretches : Stretches s texts) :
    texts.flatMap words = (words s).filter fun word => ¬ IsOperator word := by
  induction stretches with
  | none operators =>
    symm
    simpa [List.filter_eq_nil_iff] using operators
  | @next lead text rest texts operators start nonempty trimmed free stop longest later ih =>
    have front : (words lead).filter (fun word => ¬ IsOperator word) = [] := by
      simpa [List.filter_eq_nil_iff] using operators
    have own : (words text).filter (fun word => ¬ IsOperator word) = words text := by
      simpa [List.filter_eq_self] using free
    rw [words_stretch start nonempty trimmed stop, List.filter_append, List.filter_append, front,
      own, List.flatMap_cons, ih, List.nil_append]

/-- Without quotes, and with no two operators side by side, a search text is a choice between its
stretches, and no word of it is lost but the operators. -/
theorem compile_unquoted {raw : String} (unquoted : '"' ∉ raw.toList)
    (apart : OperatorsApart (words raw.toList)) :
    ∃ texts, (∀ found, Stretches raw.toList found ↔ found = texts) ∧
      Offers (compile raw) (texts.map fun t => allWords (String.ofList t)) ∧
      texts.flatMap words = (words raw.toList).filter fun word => ¬ IsOperator word := by
  obtain ⟨texts, stretches⟩ := exists_stretches raw.toList
  have texts_eq := clauseTexts_stretches stretches apart
  have leftmost : LeftmostPhrases (trimChars raw.toList) [trimChars raw.toList] [] := by
    refine .none fun p _ found => unquoted ?_
    exact (found.trans (trimChars_isInfix _)).subset (by simp [quoted])
  refine ⟨texts, fun found => ⟨fun h => ?_, fun h => h ▸ stretches⟩, ?_, words_stretches stretches⟩
  · rw [← clauseTexts_stretches h apart, texts_eq]
  · rw [compile_leftmost leftmost, List.flatten_singleton, clauseTexts_trimChars, texts_eq]
    exact offers_choice _

/-- Operators in any case at both ends and between blanks of several kinds, blanks inside a stretch,
and words that only contain the letters. -/
def mixedOperators : String :=
  " Or salt  or\u00A0black  pepper\toR\u3000forest oregon OR"

/-- The operators in any case part three stretches, of which each is a clause. -/
theorem compile_unquoted_forests :
    '"' ∉ mixedOperators.toList ∧ OperatorsApart (words mixedOperators.toList) ∧
      Stretches mixedOperators.toList
        ["salt".toList, "black  pepper".toList, "forest oregon".toList] ∧
      compile mixedOperators =
        .any [allWords "salt", allWords "black  pepper", allWords "forest oregon"] := by
  have unquoted : '"' ∉ mixedOperators.toList := by decide
  have apart : OperatorsApart (words mixedOperators.toList) := by decide +kernel
  have compiled : compile mixedOperators =
      .any [allWords "salt", allWords "black  pepper", allWords "forest oregon"] := rfl
  obtain ⟨texts, unique, offers, -⟩ := compile_unquoted unquoted apart
  refine ⟨unquoted, apart, (unique _).2 ?_, compiled⟩
  have injective : Function.Injective fun t : List Char => allWords (String.ofList t) :=
    fun s t h => by simpa [allWords, String.ofList_inj] using h
  rw [compiled] at offers
  apply List.map_injective_iff.2 injective
  generalize hclauses : texts.map _ = clauses at offers
  cases offers with
  | single => cases texts <;> simp [allWords] at hclauses
  | several => rfl

end CatalogSearch.Query
