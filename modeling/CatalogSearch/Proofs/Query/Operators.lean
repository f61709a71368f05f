import CatalogSearch.Proofs.Query.Alternatives
import Mathlib.Data.List.Chain

/-!
# Operators around phrases

Phrases are cut out of a search text before its operators are looked at, so the operators around a
phrase come together or come to stand at an end of the text, and of those only one at each end is
dropped. The main statement says for which alternatives no operator is taken for a word.
-/
namespace CatalogSearch.Query

open Text

/-- The last word is not the operator, and no two operators stand side by side. -/
structure Separated (ws : List (List Char)) : Prop where
  last : ∀ word ∈ ws.getLast?, isOr word = false
  apart : ws.IsChain fun word next => isOr word = false ∨ isOr next = false

namespace Separated

theorem cons_cons {word next : List Char} {ws : List (List Char)}
    (apart : isOr word = false ∨ isOr next = false) (separated : Separated (next :: ws)) :
    Separated (word :: next :: ws) where
  last last hlast := separated.last last (by simpa using hlast)
  apart := .cons_cons apart separated.apart

theorem cons {word : List Char} {ws : List (List Char)} (solid : isOr word = false)
    (separated : Separated ws) : Separated (word :: ws) := by
  cases ws with
  | nil => exact ⟨by simpa using solid, by simp⟩
  | cons next ws => exact separated.cons_cons (.inl solid)

theorem append {before ws : List (List Char)} (separated : Separated (before ++ ws)) :
    Separated ws where
  last last hlast := by
    apply separated.last last
    rw [List.getLast?_append, hlast, Option.some_or]
    rfl
  apart := (List.isChain_append.1 separated.apart).2.1

end Separated

/-- Text before the first operator goes into the first part. -/
theorem splitOr_append {segs : List Segment} (free : ∀ seg ∈ segs, isOr seg.2 = false)
    (part : List Char) (rest : List Segment) (some : rest ≠ []) :
    splitOr part (segs ++ rest) = splitOr (part ++ joined segs) rest := by
  induction segs generalizing part with
  | nil => simp
  | cons seg segs ih =>
    have here := free seg (by simp)
    have there := ih (fun other h => free other (by simp [h])) (part ++ seg.1 ++ seg.2)
    obtain ⟨next, more, hnext⟩ : ∃ next more, segs ++ rest = next :: more :=
      List.exists_cons_of_ne_nil (by simp [some])
    rw [List.cons_append, hnext, splitOr, if_neg (by simp [here]), ← hnext, there]
    simp

theorem splitOr_free {segs : List Segment} (free : ∀ seg ∈ segs, isOr seg.2 = false)
    (part : List Char) : splitOr part segs = [part ++ joined segs] := by
  rcases List.eq_nil_or_concat segs with rfl | ⟨init, last, rfl⟩
  · simp [splitOr]
  · rw [List.concat_eq_append] at free ⊢
    rw [splitOr_append (fun seg h => free seg (by simp [h])) part [last] (by simp), splitOr]
    simp

theorem orFree_joined {segs : List Segment} (spaced : Spaced segs) :
    OrFree (joined segs) ↔ ∀ seg ∈ segs, isOr seg.2 = false := by
  rw [OrFree, words_joined spaced, List.forall_mem_map]

/-- An operator at the end or behind another one goes into a part. -/
theorem separated_of_splitOr {pre segs : List Segment} (spaced : Spaced (pre ++ segs))
    (free : ∀ p ∈ splitOr (joined pre) segs, OrFree p) :
    (∀ seg ∈ pre, isOr seg.2 = false) ∧ Separated (segs.map Prod.snd) := by
  generalize hpart : joined pre = part at free
  fun_induction splitOr part segs generalizing pre with
  | case1 part =>
    subst hpart
    exact ⟨(orFree_joined spaced.init).1 (free _ (by simp)), by simp, by simp⟩
  | case2 part gap word =>
    subst hpart
    have all := free (joined (pre ++ [(gap, word)])) (by simp)
    have none := (orFree_joined spaced).1 all
    refine ⟨fun seg h => none seg (by simp [h]), ?_, by simp⟩
    simpa using none (gap, word) (by simp)
  | case3 part gap word gap' word' rest operator ih =>
    subst hpart
    have later : Spaced ([([], word')] ++ rest) := spaced.suffix.tail.flush
    obtain ⟨first, separated⟩ := ih later (by simp) fun p hp => free p (List.mem_cons_of_mem _ hp)
    have solid : isOr word' = false := first ([], word') (by simp)
    refine ⟨(orFree_joined spaced.init).1 (free _ (by simp)), ?_⟩
    exact (separated.cons solid).cons_cons (.inr solid)
  | case4 part gap word gap' word' rest plain ih =>
    subst hpart
    have assoc : Spaced ((pre ++ [(gap, word)]) ++ (gap', word') :: rest) := by
      rw [List.append_assoc]
      exact spaced
    obtain ⟨first, separated⟩ := ih assoc (by simp) free
    refine ⟨fun seg h => first seg (by simp [h]), ?_⟩
    exact separated.cons (by simpa using plain)

theorem separated_of_parts {segs : List Segment} (spaced : Spaced segs)
    (free : ∀ p ∈ parts segs, OrFree p) :
    (∀ word ∈ (segs.map Prod.snd).head?, isOr word = false) ∧ Separated (segs.map Prod.snd) := by
  cases segs with
  | nil => exact ⟨by simp, by simp, by simp⟩
  | cons seg more =>
    have text : joined [([], seg.2)] = seg.2 := by simp
    have flushed : Spaced ([([], seg.2)] ++ more) := spaced.flush
    obtain ⟨first, separated⟩ := separated_of_splitOr flushed (by rw [text]; exact free)
    have solid : isOr seg.2 = false := first ([], seg.2) (by simp)
    exact ⟨by simpa using solid, separated.cons solid⟩

/-- Behind any words, only a phrase at the very end leaves the operators apart: its operator is
dropped, and that of a phrase before the end stands beside the next one. -/
theorem plain_of_separated (ws : List (List Char)) {more : List Alternative}
    (separated : Separated (shedLast isOr (ws ++ follow more))) :
    ∃ terms after, more = terms ++ after ∧ (∀ a ∈ terms, a.isPhrase = false) ∧
      (after.length ≤ 1 ∧ ∀ a ∈ after, a.isPhrase) := by
  induction more generalizing ws with
  | nil => exact ⟨[], [], rfl, by simp, by simp, by simp⟩
  | cons a more ih =>
    by_cases phrase : a.isPhrase
    · cases more with
      | nil => exact ⟨[], [a], rfl, by simp, by simp, by simpa using phrase⟩
      | cons b more =>
        exfalso
        have both : ws ++ follow (a :: b :: more) =
            (ws ++ [['O', 'R']]) ++ (['O', 'R'] :: (words b.leftover ++ follow more)) := by
          simp [follow, words_phrase phrase]
        rw [both, shedLast_append _ _ (by simp)] at separated
        rcases hrest : words b.leftover ++ follow more with - | ⟨w, rest⟩
        · rw [hrest] at separated
          have last := separated.last ['O', 'R'] (by simp [shedLast, isOr])
          exact absurd last (by decide)
        · have some : w :: rest ≠ [] := by simp
          have kept := shedLast_append isOr [['O', 'R']] some
          rw [List.singleton_append] at kept
          rw [hrest, kept, List.append_assoc] at separated
          have apart := separated.append.apart
          have two := (List.isChain_append.1 apart).2.2 ['O', 'R'] (by simp) ['O', 'R'] (by simp)
          exact absurd two (by decide)
    · have plain : a.isPhrase = false := by simpa using phrase
      have shifted : ws ++ follow (a :: more) =
          (ws ++ ['O', 'R'] :: words a.leftover) ++ follow more := by simp [follow]
      rw [shifted] at separated
      obtain ⟨terms, after, rfl, hterms, hafter⟩ := ih _ separated
      refine ⟨a :: terms, after, rfl, ?_, hafter⟩
      intro b hb
      rcases List.mem_cons.1 hb with rfl | hb
      · exact plain
      · exact hterms b hb

theorem words_kept (a : Alternative) (more : List Alternative) :
    (kept (leftovers (a :: more))).map Prod.snd =
      shedLast isOr (shedFirst isOr (words a.leftover ++ follow more)) := by
  rw [map_snd_kept, words_eq_segments, words_leftovers]

theorem shedFirst_eq_self {ws : List (List Char)} (solid : ∀ w ∈ ws.head?, isOr w = false) :
    shedFirst isOr ws = ws := by
  cases ws with
  | nil => rfl
  | cons w ws => simp [shedFirst, solid w rfl]

theorem words_append_head {a : Alternative} (plain : a.isPhrase = false)
    (ws : List (List Char)) : ∀ w ∈ (words a.leftover ++ ws).head?, isOr w = false := by
  intro w hw
  obtain ⟨some, free⟩ := words_plain plain
  rw [List.head?_append_of_ne_nil _ some] at hw
  exact free w (List.mem_of_mem_head? hw)

theorem tidy_of_parts {alts : List Alternative}
    (free : ∀ p ∈ parts (kept (leftovers alts)), OrFree p) : Tidy alts := by
  rcases alts with - | ⟨a, more⟩
  · exact .inl (by simp)
  obtain ⟨head, separated⟩ := separated_of_parts (spaced_kept _) free
  rw [words_kept] at head separated
  by_cases phrase : a.isPhrase
  · rw [words_phrase phrase, List.nil_append] at head separated
    rcases more with - | ⟨b, more⟩
    · exact .inl (by simpa using phrase)
    have first : shedFirst isOr (follow (b :: more)) = words b.leftover ++ follow more := by
      simp [follow, shedFirst, isOr]
    rw [first] at head separated
    by_cases second : b.isPhrase
    · rw [words_phrase second, List.nil_append] at head
      rcases more with - | ⟨c, more⟩
      · exact .inl (by simpa using ⟨phrase, second⟩)
      rcases hrest : words c.leftover ++ follow more with - | ⟨w, rest⟩
      · have third : c.isPhrase := by
          by_contra plain
          exact (words_plain (by simpa using plain)).1 (List.append_eq_nil_iff.1 hrest).1
        have last : more = [] := by
          cases more with
          | nil => rfl
          | cons d more => simp [follow] at hrest
        subst last
        exact .inl (by simpa using ⟨phrase, second, third⟩)
      · -- The operator behind the second phrase has come to stand first and was not dropped.
        exfalso
        have behind : follow (c :: more) = [['O', 'R']] ++ w :: rest := by
          rw [← hrest]
          simp [follow]
        rw [behind, shedLast_append _ _ (by simp)] at head
        exact absurd (head ['O', 'R'] rfl) (by decide)
    · have plain : b.isPhrase = false := by simpa using second
      obtain ⟨terms, after, rfl, hterms, hafter⟩ := plain_of_separated _ separated
      refine .inr ⟨[a], b :: terms, after, rfl, ⟨by simp, by simpa using phrase⟩, ?_, hafter⟩
      intro d hd
      rcases List.mem_cons.1 hd with rfl | hd
      · exact plain
      · exact hterms d hd
  · have plain : a.isPhrase = false := by simpa using phrase
    rw [shedFirst_eq_self (words_append_head plain _)] at separated
    obtain ⟨terms, after, rfl, hterms, hafter⟩ := plain_of_separated _ separated
    refine .inr ⟨[], a :: terms, after, rfl, by simp, ?_, hafter⟩
    intro d hd
    rcases List.mem_cons.1 hd with rfl | hd
    · exact plain
    · exact hterms d hd

theorem flush_segments {s : List Char} (solid : ∀ c ∈ s.head?, isBlank c = false) :
    flush (segments s) = segments s := by
  cases s with
  | nil => rfl
  | cons c s =>
    rw [segments, if_neg (by simp [solid c rfl])]
    split <;> rfl

theorem leftover_plain {a : Alternative} (plain : a.isPhrase = false) :
    a.leftover ≠ [] ∧ Trimmed a.leftover := by
  cases a with
  | phrase => simp [Alternative.isPhrase] at plain
  | plain text nonempty trimmed => exact ⟨nonempty, trimmed⟩

theorem leftovers_head_solid {a : Alternative} (plain : a.isPhrase = false)
    (more : List Alternative) : ∀ c ∈ (leftovers (a :: more)).head?, isBlank c = false := by
  obtain ⟨nonempty, trimmed⟩ := leftover_plain plain
  cases more with
  | nil => simpa [leftovers] using trimmed.1
  | cons b more =>
    rw [leftovers, List.map_cons, List.map_cons, List.intercalate_cons_cons, List.append_assoc,
      List.head?_append_of_ne_nil _ nonempty]
    exact trimmed.1

/-- A phrase before the words leaves only an operator, which is dropped. -/
theorem flush_shedFirst_leftovers {before more : List Alternative} {a : Alternative}
    (hbefore : before.length ≤ 1 ∧ ∀ b ∈ before, b.isPhrase) (plain : a.isPhrase = false) :
    flush (shedFirst endsInOr (segments (leftovers (before ++ a :: more)))) =
      segments (leftovers (a :: more)) := by
  have flushed := flush_segments (leftovers_head_solid plain more)
  rcases before with - | ⟨b, - | ⟨c, before⟩⟩
  · have head := words_append_head plain (follow more)
    rw [← words_leftovers] at head
    have same : shedFirst endsInOr (segments (leftovers (a :: more))) =
        segments (leftovers (a :: more)) := by
      cases hsegs : segments (leftovers (a :: more)) with
      | nil => rfl
      | cons seg segs =>
        rw [hsegs] at head
        simp [shedFirst, endsInOr, head seg.2 rfl]
    rw [List.nil_append, same, flushed]
  · have phrase := leftover_phrase (hbefore.2 b (by simp))
    have widened (segs : List Segment) : flush (widen [' '] segs) = flush segs := by
      cases segs <;> rfl
    have operator : endsInOr ([' '], ['O', 'R']) = true := by decide
    rw [List.singleton_append, segments_leftovers, phrase, segments, List.nil_append, shedFirst,
      if_pos operator, widened, flushed]
  · simp at hbefore

theorem leftovers_concat {terms : List Alternative} {b : Alternative} (some : terms ≠ []) :
    leftovers (terms ++ [b]) = leftovers terms ++ (operator ++ b.leftover) := by
  induction terms with
  | nil => exact absurd rfl some
  | cons a terms ih =>
    cases terms with
    | nil => simp [leftovers]
    | cons c terms =>
      have rest := ih (by simp)
      simp only [leftovers, List.cons_append, List.map_cons, List.intercalate_cons_cons,
        List.append_assoc] at rest ⊢
      rw [rest]

theorem last_plain {a : Alternative} {more : List Alternative} (plain : a.isPhrase = false)
    (rest : ∀ b ∈ more, b.isPhrase = false) :
    ∀ w ∈ (words a.leftover ++ follow more).getLast?, isOr w = false := by
  induction more generalizing a with
  | nil =>
    intro w hw
    exact (words_plain plain).2 w (List.mem_of_getLast? (by simpa [follow] using hw))
  | cons b more ih =>
    have second := rest b (by simp)
    have some : words b.leftover ++ follow more ≠ [] := by simp [(words_plain second).1]
    have text : words a.leftover ++ follow (b :: more) =
        (words a.leftover ++ [['O', 'R']]) ++ (words b.leftover ++ follow more) := by
      simp [follow]
    rw [text, List.getLast?_append_of_ne_nil _ some]
    exact ih second fun c hc => rest c (by simp [hc])

/-- A phrase behind the words leaves only an operator, which is dropped. -/
theorem shedLast_leftovers {terms after : List Alternative} (some : terms ≠ [])
    (hterms : ∀ a ∈ terms, a.isPhrase = false)
    (hafter : after.length ≤ 1 ∧ ∀ b ∈ after, b.isPhrase) :
    shedLast endsInOr (segments (leftovers (terms ++ after))) = segments (leftovers terms) := by
  rcases after with - | ⟨b, - | ⟨c, after⟩⟩
  · obtain ⟨a, more, rfl⟩ := List.exists_cons_of_ne_nil some
    have last := last_plain (hterms a (by simp)) fun b hb => hterms b (List.mem_cons_of_mem _ hb)
    rw [← words_leftovers, List.getLast?_map] at last
    rw [List.append_nil, shedLast]
    cases hlast : (segments (leftovers (a :: more))).getLast? with
    | none => rfl
    | some seg =>
      have solid : isOr seg.2 = false := last seg.2 (by simp [hlast])
      simp [endsInOr, solid]
  · have phrase := leftover_phrase (hafter.2 b (by simp))
    have blank : isBlank ' ' = true := by decide
    rw [leftovers_concat some, phrase, List.append_nil,
      segments_append (leftovers_last_solid hterms) (by simp [operator, blank]),
      shedLast_append _ _ (by decide)]
    have dropped : shedLast endsInOr (segments operator) = [] := by decide
    rw [dropped, List.append_nil]
  · simp at hafter

theorem segments_plain {a : Alternative} (plain : a.isPhrase = false) :
    ∃ gap word more, segments a.leftover = (gap, word) :: more ∧
      word ++ joined more = a.leftover ∧ ∀ seg ∈ more, isOr seg.2 = false := by
  obtain ⟨nonempty, trimmed⟩ := leftover_plain plain
  obtain ⟨some, free⟩ := words_plain plain
  have text := trimChars_eq_joined a.leftover
  rw [trimChars_eq_self trimmed] at text
  rw [words_eq_segments] at some free
  rcases hsegs : segments a.leftover with - | ⟨⟨gap, word⟩, more⟩
  · simp [hsegs] at some
  · refine ⟨gap, word, more, rfl, ?_, ?_⟩
    · rw [hsegs] at text
      simpa [flush] using text.symm
    · intro seg hseg
      exact free seg.2 (by rw [hsegs]; exact List.mem_map_of_mem (List.mem_cons_of_mem _ hseg))

theorem parts_leftovers {a : Alternative} {more : List Alternative} (plain : a.isPhrase = false)
    (rest : ∀ b ∈ more, b.isPhrase = false) :
    parts (segments (leftovers (a :: more))) = (a :: more).map Alternative.leftover := by
  obtain ⟨gap, word, segs, hsegs, text, free⟩ := segments_plain plain
  induction more generalizing a gap word segs with
  | nil =>
    have alone : leftovers [a] = a.leftover := by simp [leftovers]
    rw [alone, hsegs, parts, splitOr_free free, text]
    rfl
  | cons b more ih =>
    have second := rest b (by simp)
    obtain ⟨gap', word', segs', hsegs', text', free'⟩ := segments_plain second
    have later := ih second (fun c hc => rest c (by simp [hc])) gap' word' segs' hsegs' text' free'
    rw [segments_leftovers, hsegs, List.cons_append, parts, splitOr_append free _ _ (by simp), text]
    rcases hnext : segments (leftovers (b :: more)) with - | ⟨⟨gap'', word''⟩, segs''⟩
    · have none := words_leftovers b more
      rw [hnext] at none
      exact absurd none.symm (by simp [(words_plain second).1])
    · rw [hnext, parts] at later
      rw [widen, splitOr, if_pos (by decide), later]
      rfl

theorem plainTexts_phrases {alts : List Alternative} (phrases : ∀ a ∈ alts, a.isPhrase) :
    alts.filterMap Alternative.plainText = [] := by
  rw [List.filterMap_eq_nil_iff]
  intro a ha
  cases a with
  | phrase => rfl
  | plain => simpa [Alternative.isPhrase] using phrases _ ha

theorem plainTexts_plain {alts : List Alternative} (plain : ∀ a ∈ alts, a.isPhrase = false) :
    alts.filterMap Alternative.plainText = alts.map Alternative.leftover := by
  induction alts with
  | nil => rfl
  | cons a alts ih =>
    have rest := ih fun b hb => plain b (List.mem_cons_of_mem _ hb)
    cases a with
    | phrase => simpa [Alternative.isPhrase] using plain _ List.mem_cons_self
    | plain => simp [Alternative.plainText, Alternative.leftover, rest]

theorem partClauses_phrases {alts : List Alternative} (few : alts.length ≤ 3)
    (phrases : ∀ a ∈ alts, a.isPhrase) : partClauses (parts (kept (leftovers alts))) = [] := by
  have texts : alts.map Alternative.leftover = List.replicate alts.length [] := by
    rw [List.eq_replicate_iff]
    refine ⟨List.length_map _, fun t ht => ?_⟩
    obtain ⟨a, ha, rfl⟩ := List.mem_map.1 ht
    exact leftover_phrase (phrases a ha)
  have dropped : ∀ n ≤ 3, kept (operator.intercalate (List.replicate n [])) = [] := by decide
  rw [leftovers, texts, dropped _ few]
  rfl

theorem partClauses_plain {alts : List Alternative} (plain : ∀ a ∈ alts, a.isPhrase = false) :
    partClauses (alts.map Alternative.leftover) =
      (alts.map Alternative.leftover).map fun p => allWords (String.ofList p) := by
  have trimmed : (alts.map Alternative.leftover).map trimChars =
      alts.map Alternative.leftover := by
    rw [List.map_map]
    apply List.map_congr_left
    intro a ha
    exact trimChars_eq_self (leftover_plain (plain a ha)).2
  have filled : (alts.map Alternative.leftover).filter (fun p => !p.isEmpty) =
      alts.map Alternative.leftover := by
    rw [List.filter_eq_self]
    intro t ht
    obtain ⟨a, ha, rfl⟩ := List.mem_map.1 ht
    simp [(leftover_plain (plain a ha)).1]
  rw [partClauses, trimmed, filled]

/-- Tidy alternatives leave exactly the texts of the plain ones between operators. -/
theorem partClauses_of_tidy {alts : List Alternative} (tidy : Tidy alts) :
    partClauses (parts (kept (leftovers alts))) =
      (alts.filterMap Alternative.plainText).map fun p => allWords (String.ofList p) := by
  obtain ⟨few, phrases⟩ | ⟨before, terms, after, rfl, hbefore, hterms, hafter⟩ := tidy
  · rw [partClauses_phrases few phrases, plainTexts_phrases phrases]
    rfl
  · rcases terms with - | ⟨a, more⟩
    · have phrases : ∀ b ∈ before ++ [] ++ after, b.isPhrase := by
        intro b hb
        rw [List.append_nil] at hb
        exact (List.mem_append.1 hb).elim (hbefore.2 b) (hafter.2 b)
      have few : (before ++ [] ++ after).length ≤ 3 := by
        have := hbefore.1
        have := hafter.1
        simp only [List.append_nil, List.length_append]
        omega
      rw [partClauses_phrases few phrases, plainTexts_phrases phrases]
      rfl
    · have plain : a.isPhrase = false := hterms a List.mem_cons_self
      have rest : ∀ b ∈ more, b.isPhrase = false :=
        fun b hb => hterms b (List.mem_cons_of_mem _ hb)
      have segs : kept (leftovers (before ++ (a :: more) ++ after)) =
          segments (leftovers (a :: more)) := by
        have first : flush (shedFirst endsInOr
            (segments (leftovers (before ++ a :: (more ++ after))))) =
              segments (leftovers (a :: (more ++ after))) :=
          flush_shedFirst_leftovers hbefore plain
        have last := shedLast_leftovers (by simp) hterms hafter
        rw [List.cons_append] at last
        rw [kept, List.append_assoc, List.cons_append, first, last]
      rw [segs, parts_leftovers plain rest, partClauses_plain hterms, List.filterMap_append,
        List.filterMap_append, plainTexts_phrases hbefore.2, plainTexts_phrases hafter.2,
        plainTexts_plain hterms, List.nil_append, List.append_nil]

/-- The clauses that a query chooses between. -/
def clausesOf : Query → List Query
  | .any qs => qs
  | q => [q]

theorem allWords_mem_choice {phrases texts : List (List Char)} {text : List Char} :
    allWords (String.ofList text) ∈ clausesOf (choice
        (phrases.map (fun p => phrase (String.ofList p)) ++
          texts.map fun p => allWords (String.ofList p))) ↔ text ∈ texts := by
  have here : allWords (String.ofList text) ∈ phrases.map (fun p => phrase (String.ofList p)) ++
      texts.map (fun p => allWords (String.ofList p)) ↔ text ∈ texts := by
    simp [allWords, phrase, String.ofList_inj]
  have weighted : ∀ q ∈ phrases.map (fun p => phrase (String.ofList p)) ++
      texts.map (fun p => allWords (String.ofList p)), ∃ t mode, q = .weighted t mode := by
    intro q hq
    rcases List.mem_append.1 hq with hq | hq
    · obtain ⟨p, -, rfl⟩ := List.mem_map.1 hq
      exact ⟨_, _, rfl⟩
    · obtain ⟨p, -, rfl⟩ := List.mem_map.1 hq
      exact ⟨_, _, rfl⟩
  rw [← here]
  generalize phrases.map (fun p => phrase (String.ofList p)) ++
    texts.map (fun p => allWords (String.ofList p)) = qs at weighted
  rcases qs with - | ⟨q, - | ⟨r, qs⟩⟩
  · simp [choice, clausesOf, allWords]
  · obtain ⟨t, mode, rfl⟩ := weighted q (by simp)
    rfl
  · rfl

theorem orFree_of_meaning {alts : List Alternative} {text : List Char}
    (mem : allWords (String.ofList text) ∈ clausesOf (meaning alts)) : OrFree text := by
  rw [meaning, allWords_mem_choice] at mem
  obtain ⟨a, ha, hplain⟩ := List.mem_filterMap.1 mem
  cases a with
  | phrase => simp [Alternative.plainText] at hplain
  | plain plain nonempty trimmed unquoted orFree =>
    simp only [Alternative.plainText, Option.some.injEq] at hplain
    rw [← hplain]
    exact orFree

/-- The words of a part are those of a clause, unless there are none. -/
theorem orFree_of_clauses {alts : List Alternative}
    (free : ∀ text, allWords (String.ofList text) ∈ clausesOf (compile (searchText alts)) →
      OrFree text) : ∀ p ∈ parts (kept (leftovers alts)), OrFree p := by
  intro p hp word hword
  have filled : trimChars p ≠ [] := by
    intro none
    rw [← words_trimChars, none] at hword
    simp [words, runs] at hword
  have mem : trimChars p ∈
      ((parts (kept (leftovers alts))).map trimChars).filter fun p => !p.isEmpty :=
    List.mem_filter.2 ⟨List.mem_map_of_mem hp, by simpa using filled⟩
  have orFree : OrFree (trimChars p) := by
    apply free
    rw [compile_eq_choice, partClauses, allWords_mem_choice]
    exact mem
  rw [← words_trimChars] at hword
  exact orFree word hword

/-- A search text means what its alternatives say exactly when they are tidy, and only then does
no operator end up among the words of a clause. -/
theorem compile_searchText (alts : List Alternative) :
    (compile (searchText alts) = meaning alts ↔ Tidy alts) ∧
      ((∀ text, allWords (String.ofList text) ∈ clausesOf (compile (searchText alts)) →
        OrFree text) ↔ Tidy alts) := by
  have means (tidy : Tidy alts) : compile (searchText alts) = meaning alts := by
    rw [compile_eq_choice, partClauses_of_tidy tidy, meaning]
  have free (same : compile (searchText alts) = meaning alts) (text : List Char)
      (mem : allWords (String.ofList text) ∈ clausesOf (compile (searchText alts))) :
      OrFree text := by
    rw [same] at mem
    exact orFree_of_meaning mem
  have tidy (hfree : ∀ text, allWords (String.ofList text) ∈
      clausesOf (compile (searchText alts)) → OrFree text) : Tidy alts :=
    tidy_of_parts (orFree_of_clauses hfree)
  exact ⟨⟨fun same => tidy (free same), means⟩, ⟨tidy, fun h => free (means h)⟩⟩

/-- A phrase between words brings the operators around it together, and the second of them becomes
a word of the clause behind. -/
theorem compile_phrase_between_words :
    ∃ alts : List Alternative, searchText alts = "river OR \"water quality\" OR lake" ∧
      meaning alts = .any [phrase "water quality", allWords "river", allWords "lake"] ∧
      compile (searchText alts) =
        .any [phrase "water quality", allWords "river", allWords "OR lake"] ∧
      compile (searchText alts) ≠ meaning alts ∧ ¬ OrFree "OR lake".toList := by
  obtain ⟨alts, text, means, compiles⟩ :
      ∃ alts : List Alternative, searchText alts = "river OR \"water quality\" OR lake" ∧
        meaning alts = .any [phrase "water quality", allWords "river", allWords "lake"] ∧
        compile (searchText alts) =
          .any [phrase "water quality", allWords "river", allWords "OR lake"] := by
    refine ⟨[.plain "river".toList (by decide) (by decide) (by decide) (by decide),
      .phrase "water quality".toList (by decide) (by decide),
      .plain "lake".toList (by decide) (by decide) (by decide) (by decide)], ?_, ?_, ?_⟩
    · decide
    · rfl
    · rfl
  refine ⟨alts, text, means, compiles, ?_, by decide⟩
  rw [means, compiles]
  simp [allWords]

end CatalogSearch.Query
