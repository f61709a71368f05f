import CatalogSearch.Index.Match
import Mathlib.Algebra.Ring.Nat
import Mathlib.Control.Monad.Basic

/-!
# What a query matches

A document matches a query by its tokens alone: everything, all words anywhere, a phrase as a run of
tokens of one value, or any of several alternatives. The main statement says that exactly these
documents have a score, that it is positive, and that scoring never looks for an empty phrase.
-/
namespace CatalogSearch

open Text

namespace Document

/-- The texts of a document that a search goes through. -/
def texts (d : Document) : List String :=
  d.title :: d.description :: d.publisher :: d.identifier :: (d.keyword ++ d.theme)

/-- The fields have these texts for values, and no others. -/
theorem exists_mem_values_iff {d : Document} {text : String} :
    (∃ field, text ∈ d.values field) ↔ text ∈ d.texts := by
  simp only [texts, List.mem_cons, List.mem_append]
  constructor
  · rintro ⟨field, mem⟩
    cases field <;> simp_all [values]
  · rintro (title | description | publisher | identifier | keyword | theme)
    · exact ⟨.title, List.mem_singleton.2 title⟩
    · exact ⟨.description, List.mem_singleton.2 description⟩
    · exact ⟨.publisher, List.mem_singleton.2 publisher⟩
    · exact ⟨.identifier, List.mem_singleton.2 identifier⟩
    · exact ⟨.keyword, keyword⟩
    · exact ⟨.theme, theme⟩

end Document

namespace Query

variable {d : Document}

/-- A document matches a query. -/
inductive Matches (d : Document) : Query → Prop
  | matchAll : Matches d .matchAll
  | allWords {text : String} (some : tokens text ≠ [])
      (each : ∀ token ∈ tokens text, ∃ field, ∃ value ∈ d.values field, token ∈ tokens value) :
      Matches d (.weighted text .allWords)
  | phrase {text value : String} {field : Field} (some : tokens text ≠ [])
      (mem : value ∈ d.values field) (run : tokens text <:+: tokens value) :
      Matches d (.weighted text .phrase)
  | any {q : Query} {qs : List Query} (mem : q ∈ qs) (inner : Matches d q) : Matches d (.any qs)

/-- What holds of a choice if it holds of its alternatives holds of every query. -/
@[elab_as_elim]
theorem induction {motive : Query → Prop} (matchAll : motive .matchAll)
    (weighted : ∀ text mode, motive (.weighted text mode))
    (any : ∀ qs, (∀ q ∈ qs, motive q) → motive (.any qs)) (q : Query) : motive q := by
  cases q with
  | matchAll => exact matchAll
  | weighted text mode => exact weighted text mode
  | any qs => exact any qs fun q _ => induction matchAll weighted any q

theorem total_pos_iff {numbers : List Nat} : 0 < total numbers ↔ ∃ n ∈ numbers, 0 < n := by
  induction numbers with
  | nil => simp [total]
  | cons n rest ih =>
    simp only [total, List.mem_cons, exists_eq_or_imp, ← ih]
    omega

theorem total_eq_sum (numbers : List Nat) : total numbers = numbers.sum := by
  induction numbers with
  | nil => rfl
  | cons n rest ih => rw [total, ih, List.sum_cons]

theorem mem_searchFields (field : Field) : field ∈ searchFields := by
  cases field <;> decide

/-- Every field counts. -/
theorem boost_pos (field : Field) : 0 < field.boost := by
  cases field <;> decide

/-- The terms that score are the tokens of the values. -/
theorem termScore_pos_iff {term : List Char} :
    0 < termScore d term ↔ ∃ field, ∃ value ∈ d.values field, term ∈ tokens value := by
  rw [termScore, total_pos_iff]
  constructor
  · rintro ⟨n, mem, positive⟩
    obtain ⟨field, -, rfl⟩ := List.mem_map.1 mem
    have occurs := List.count_pos_iff.1 (Nat.pos_of_mul_pos_left positive)
    obtain ⟨value, hvalue, hterm⟩ := List.mem_flatMap.1 occurs
    exact ⟨field, value, hvalue, hterm⟩
  · rintro ⟨field, value, hvalue, hterm⟩
    have occurs := List.count_pos_iff.2 (List.mem_flatMap.2 ⟨value, hvalue, hterm⟩)
    exact ⟨_, List.mem_map_of_mem (mem_searchFields field), Nat.mul_pos (boost_pos field) occurs⟩

/-- Terms score together if each of them scores. -/
theorem allTermsScore_eq (d : Document) (terms : List (List Char)) :
    allTermsScore d terms =
      if ∀ term ∈ terms, 0 < termScore d term then some (total (terms.map (termScore d)))
      else none := by
  induction terms with
  | nil => rfl
  | cons term rest ih =>
    rw [allTermsScore, ih]
    rcases hterm : termScore d term with - | n
    · simp [hterm]
    · simp only [List.forall_mem_cons, hterm, Nat.zero_lt_succ, true_and, List.map_cons, total]
      split <;> rfl

theorem isSome_allTermsScore_iff {terms : List (List Char)} :
    (allTermsScore d terms).isSome = true ↔
      ∀ term ∈ terms, ∃ field, ∃ value ∈ d.values field, term ∈ tokens value := by
  rw [allTermsScore_eq]
  simp only [← termScore_pos_iff]
  split
  · next each => simpa using each
  · next lacking => simpa using lacking

theorem allTermsScore_pos {terms : List (List Char)} (some : terms ≠ []) {s : Nat}
    (h : allTermsScore d terms = .some s) : 0 < s := by
  obtain ⟨term, mem⟩ := List.exists_mem_of_ne_nil terms some
  rw [allTermsScore_eq] at h
  split at h
  · next each =>
    obtain rfl := Option.some.inj h
    exact total_pos_iff.2 ⟨_, List.mem_map_of_mem mem, each term mem⟩
  · cases h

theorem occursIn_iff {terms values : List (List Char)} :
    occursIn terms values = true ↔ terms <:+: values := by
  induction values with
  | nil => simp [occursIn]
  | cons token rest ih => simp [occursIn, ih, List.infix_cons_iff]

theorem isSome_phraseScore_iff {terms : List (List Char)} :
    (phraseScore d terms).isSome = true ↔
      ∃ field, ∃ value ∈ d.values field, terms <:+: tokens value := by
  have held (field : Field) :
      0 < (if (d.values field).any (fun value => occursIn terms (tokens value)) then field.boost
        else 0) ↔ ∃ value ∈ d.values field, terms <:+: tokens value := by
    simp only [← occursIn_iff, ← List.any_eq_true]
    split <;> simp [*, boost_pos]
  have scored : (phraseScore d terms).isSome = true ↔ 0 < total (searchFields.map fun field =>
      if (d.values field).any fun value => occursIn terms (tokens value) then field.boost
        else 0) := by
    rw [phraseScore]
    split <;> simp_all [Nat.pos_iff_ne_zero]
  rw [scored, total_pos_iff, ← exists_congr held]
  constructor
  · rintro ⟨n, mem, positive⟩
    obtain ⟨field, -, rfl⟩ := List.mem_map.1 mem
    exact ⟨field, positive⟩
  · rintro ⟨field, positive⟩
    exact ⟨_, List.mem_map_of_mem (mem_searchFields field), positive⟩

theorem phraseScore_pos {terms : List (List Char)} {s : Nat} (h : phraseScore d terms = some s) :
    0 < s := by
  rw [phraseScore] at h
  split at h
  · cases h
  · next positive =>
    obtain rfl := Option.some.inj h
    exact Nat.pos_of_ne_zero positive

/-- A choice scores what its matching alternatives score together. -/
theorem anyScore_eq (d : Document) (qs : List Query) :
    anyScore d qs =
      if qs.filterMap (score d) = [] then none else some (total (qs.filterMap (score d))) := by
  induction qs with
  | nil => rfl
  | cons q rest ih =>
    rw [anyScore, ih]
    cases hq : score d q with
    | none => simp [hq]
    | some a =>
      by_cases empty : rest.filterMap (score d) = []
      · simp [hq, empty, total]
      · simp [hq, empty, total]

theorem isSome_score_any_iff {qs : List Query} :
    (score d (.any qs)).isSome = true ↔ ∃ q ∈ qs, (score d q).isSome = true := by
  have found : qs.filterMap (score d) ≠ [] ↔ ∃ q ∈ qs, (score d q).isSome = true := by
    simp [List.filterMap_eq_nil_iff, ← Option.ne_none_iff_isSome]
  rw [score, anyScore_eq, ← found]
  by_cases none : qs.filterMap (score d) = [] <;> simp [none]

theorem isSome_score_weighted_iff (text : String) (mode : MatchMode) :
    (score d (.weighted text mode)).isSome = true ↔ Matches d (.weighted text mode) := by
  rw [score]
  split
  · next none =>
    simp only [Option.isSome_none, Bool.false_eq_true, false_iff]
    rintro (_ | ⟨some, _⟩ | ⟨some, _, _⟩) <;> exact some none
  · next nonempty =>
    cases mode with
    | allWords =>
      simp only [isSome_allTermsScore_iff]
      constructor
      · exact .allWords nonempty
      · rintro (_ | ⟨_, each⟩)
        exact each
    | phrase =>
      simp only [isSome_phraseScore_iff]
      constructor
      · rintro ⟨field, value, mem, run⟩
        exact .phrase nonempty mem run
      · rintro (_ | _ | ⟨_, mem, run⟩)
        exact ⟨_, _, mem, run⟩

theorem isSome_score_iff (q : Query) : (score d q).isSome = true ↔ Matches d q := by
  induction q using Query.induction with
  | matchAll => exact ⟨fun _ => .matchAll, fun _ => rfl⟩
  | weighted text mode => exact isSome_score_weighted_iff text mode
  | any qs ih =>
    rw [isSome_score_any_iff]
    constructor
    · rintro ⟨q, mem, matched⟩
      exact .any mem ((ih q mem).1 matched)
    · rintro (_ | _ | _ | ⟨mem, inner⟩)
      exact ⟨_, mem, (ih _ mem).2 inner⟩

theorem score_pos {q : Query} {s : Nat} (h : score d q = some s) : 0 < s := by
  induction q using Query.induction generalizing s with
  | matchAll =>
    rw [score] at h
    obtain rfl := Option.some.inj h
    decide
  | weighted text mode =>
    rw [score] at h
    split at h
    · cases h
    · next nonempty =>
      cases mode with
      | allWords => exact allTermsScore_pos nonempty h
      | phrase => exact phraseScore_pos h
  | any qs ih =>
    rw [score, anyScore_eq] at h
    split at h
    · cases h
    · next found =>
      obtain rfl := Option.some.inj h
      obtain ⟨s, mem⟩ := List.exists_mem_of_ne_nil _ found
      obtain ⟨q, hq, scored⟩ := List.mem_filterMap.1 mem
      exact total_pos_iff.2 ⟨s, mem, ih q hq scored⟩

/-- Tokens that stand side by side in a value all occur in it. -/
theorem Matches.allWords_of_phrase {text : String} (h : Matches d (Query.phrase text)) :
    Matches d (Query.allWords text) := by
  obtain ⟨⟩ | ⟨⟩ | ⟨some, mem, run⟩ := h
  exact .allWords some fun token htoken => ⟨_, _, mem, run.subset htoken⟩

/-- A window of no tokens was asked for. -/
inductive Fault where
  | emptyWindow
  deriving DecidableEq, Repr

/-- The runs of `size` neighbouring tokens, in order. There are none of size zero to ask for. -/
def windows (size : Nat) (values : List (List Char)) : Except Fault (List (List (List Char))) :=
  if size = 0 then .error .emptyWindow
  else .ok ((List.range (values.length + 1 - size)).map fun i => (values.drop i).take size)

/-- How much a phrase scores if it is compared with the windows of its size. -/
def phraseScoreByWindows (d : Document) (terms : List (List Char)) : Except Fault (Option Nat) := do
  let weights ← searchFields.mapM fun field => do
    let held ← (d.values field).mapM fun value => do
      return (← windows terms.length (tokens value)).contains terms
    return if held.any id then field.boost else 0
  let score := total weights
  return if score = 0 then none else some score

mutual

/-- The score of a document under a query, with phrases looked for by windows. -/
def scoreByWindows (d : Document) : Query → Except Fault (Option Nat)
  | .matchAll => return some 1
  | .weighted text mode =>
    match tokens text with
    | [] => return none
    | terms =>
      match mode with
      | .allWords => return allTermsScore d terms
      | .phrase => phraseScoreByWindows d terms
  | .any alternatives => anyScoreByWindows d alternatives

/-- The sum of the scores of the alternatives that match, with phrases looked for by windows. -/
def anyScoreByWindows (d : Document) : List Query → Except Fault (Option Nat)
  | [] => return none
  | q :: rest => do
    match ← scoreByWindows d q, ← anyScoreByWindows d rest with
    | some a, some b => return some (a + b)
    | some a, none => return some a
    | none, found => return found

end

theorem windows_contains {terms : List (List Char)} (some : terms ≠ [])
    (values : List (List Char)) :
    ∃ found, windows terms.length values = .ok found ∧
      found.contains terms = occursIn terms values := by
  have size : terms.length ≠ 0 := by simpa using some
  refine ⟨_, by rw [windows, if_neg size], ?_⟩
  rw [Bool.eq_iff_iff, occursIn_iff, List.contains_iff_mem, List.mem_map]
  constructor
  · rintro ⟨i, -, window⟩
    rw [← window]
    exact (List.take_prefix _ _).isInfix.trans (List.drop_suffix _ _).isInfix
  · rintro ⟨before, after, rfl⟩
    refine ⟨before.length, ?_, by simp⟩
    simp only [List.mem_range, List.length_append]
    omega

theorem phraseScoreByWindows_eq {terms : List (List Char)} (some : terms ≠ []) :
    phraseScoreByWindows d terms = .ok (phraseScore d terms) := by
  have compared (value : String) :
      (do return (← windows terms.length (tokens value)).contains terms : Except Fault Bool) =
        pure (occursIn terms (tokens value)) := by
    obtain ⟨found, asked, same⟩ := windows_contains some (tokens value)
    rw [asked, ← same]
    rfl
  have weighed : (fun field : Field => (do
      let held ← (d.values field).mapM fun value => do
        return (← windows terms.length (tokens value)).contains terms
      return if held.any id then field.boost else 0 : Except Fault Nat)) = fun field =>
        pure (if (d.values field).any fun value => occursIn terms (tokens value) then field.boost
          else 0) := by
    funext field
    simp only [compared, List.mapM_pure, pure_bind, List.any_map]
    rfl
  rw [phraseScoreByWindows, weighed, List.mapM_pure]
  rfl

/-- Scoring never asks for a window of no tokens. -/
theorem scoreByWindows_eq (d : Document) (q : Query) : scoreByWindows d q = .ok (score d q) := by
  induction q using Query.induction with
  | matchAll => rfl
  | weighted text mode =>
    rw [scoreByWindows, score]
    cases tokens text with
    | nil => rfl
    | cons term terms =>
      cases mode with
      | allWords => rfl
      | phrase => exact phraseScoreByWindows_eq (List.cons_ne_nil term terms)
  | any qs ih =>
    rw [scoreByWindows, score]
    induction qs with
    | nil => rfl
    | cons q rest later =>
      rw [anyScoreByWindows, ih q (by simp), later fun r hr => ih r (List.mem_cons_of_mem q hr),
        anyScore]
      cases score d q <;> cases anyScore d rest <;> rfl

/-- Scoring says which documents match, whatever the query, by the texts that the fields have. -/
theorem score_matches (d : Document) :
    (∀ q, scoreByWindows d q = .ok (score d q)) ∧
      (∀ q, (score d q).isSome = true ↔ Matches d q) ∧
      (∀ text, (∃ field, text ∈ d.values field) ↔
        text ∈ [d.title, d.description, d.publisher, d.identifier] ++ d.keyword ++ d.theme) ∧
      (∀ q s, score d q = some s → 0 < s) ∧
      (∀ qs s, score d (.any qs) = some s → s = (qs.filterMap (score d)).sum) ∧
      (∀ text, (score d (phrase text)).isSome = true → (score d (allWords text)).isSome = true) ∧
      ∀ before q after, (score d (.any (before ++ after))).isSome = true →
        (score d (.any (before ++ q :: after))).isSome = true := by
  refine ⟨scoreByWindows_eq d, isSome_score_iff, fun text => Document.exists_mem_values_iff,
    fun q s => score_pos, fun qs s h => ?_, fun text matched => ?_,
    fun before q after matched => ?_⟩
  · rw [score, anyScore_eq] at h
    split at h
    · cases h
    · rw [← total_eq_sum]
      exact (Option.some.inj h).symm
  · rw [isSome_score_iff] at matched ⊢
    exact matched.allWords_of_phrase
  · rw [isSome_score_any_iff] at matched ⊢
    obtain ⟨r, mem, matched⟩ := matched
    refine ⟨r, ?_, matched⟩
    rw [List.mem_append] at mem ⊢
    exact mem.imp_right (List.mem_cons_of_mem q)

end Query

end CatalogSearch
