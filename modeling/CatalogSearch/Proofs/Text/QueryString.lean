import CatalogSearch.Proofs.Text.ByteOrder
import CatalogSearch.Proofs.Text.Pieces
import CatalogSearch.Text.Blank
import Mathlib.Data.List.Perm.Basic
import Mathlib.Data.Prod.Lex

/-!
# Query strings

A query is read back into its pairs by cutting it at ampersands and each part at its equals sign:
no coded text holds either. The pairs come in one order that hangs on them alone, so two lists of
parameters have the same query just if one is a rearrangement of the other.
-/
namespace CatalogSearch.Text

/-- One pair may stand before another: its key is less, or the keys are equal and its value is not
greater. -/
def PairsAscend (a b : String × String) : Prop :=
  a.1 < b.1 ∨ a.1 = b.1 ∧ a.2 ≤ b.2

theorem pairsAscend_iff_toLex (a b : String × String) : PairsAscend a b ↔ toLex a ≤ toLex b :=
  Prod.Lex.toLex_le_toLex.symm

theorem pairLE_iff (a b : String × String) : pairLE a b = true ↔ PairsAscend a b := by
  unfold pairLE PairsAscend
  by_cases same : a.1 = b.1
  · simp [same]
  · rw [if_neg same, decide_eq_true_eq, le_iff_lt_or_eq]
    simp [same]

theorem pairwise_mergeSort_pairLE (pairs : List (String × String)) :
    (pairs.mergeSort pairLE).Pairwise PairsAscend := by
  have sorted : (pairs.mergeSort pairLE).Pairwise fun a b => pairLE a b = true := by
    apply List.pairwise_mergeSort
    · intro a b c hab hbc
      rw [pairLE_iff, pairsAscend_iff_toLex] at hab hbc ⊢
      exact hab.trans hbc
    · intro a b
      rw [Bool.or_eq_true, pairLE_iff, pairLE_iff, pairsAscend_iff_toLex, pairsAscend_iff_toLex]
      exact le_total _ _
  exact sorted.imp fun {a b} => (pairLE_iff a b).1

/-- The same pairs have one order. -/
theorem mergeSort_pairLE_eq_iff (p q : List (String × String)) :
    p.mergeSort pairLE = q.mergeSort pairLE ↔ q.Perm p := by
  constructor
  · intro same
    have sorted := List.mergeSort_perm q pairLE
    rw [← same] at sorted
    exact sorted.symm.trans (List.mergeSort_perm p pairLE)
  · intro perm
    refine List.Perm.eq_of_pairwise (fun a b _ _ hab hba => ?_) (pairwise_mergeSort_pairLE p)
      (pairwise_mergeSort_pairLE q) ?_
    · rw [pairsAscend_iff_toLex] at hab hba
      exact toLex_inj.1 (le_antisymm hab hba)
    · exact (List.mergeSort_perm p pairLE).trans
        (perm.symm.trans (List.mergeSort_perm q pairLE).symm)

/-- A pair as a query shows it. -/
def pairText (p : String × String) : String := p.1 ++ "=" ++ p.2

/-- The pair that a part of a query denotes: what stands before its first equals sign, and what
stands behind it. -/
def pairOf (part : List Char) : String × String :=
  let (key, value) := splitAt (· = '=') part
  (String.ofList key, String.ofList (value.getD []))

/-- The pairs of a query: its parts between ampersands. An empty query has none. -/
def queryPairs (query : String) : List (String × String) :=
  if query.isEmpty then [] else (pieces (· = '&') query.toList).map pairOf

/-- A pair whose text says where its key and where the pair itself ends. -/
structure PlainPair (p : String × String) : Prop where
  equals : '=' ∉ p.1.toList
  ampersandKey : '&' ∉ p.1.toList
  ampersandValue : '&' ∉ p.2.toList

theorem pairOf_pairText {p : String × String} (plain : PlainPair p) :
    pairOf (pairText p).toList = p := by
  have key : ∀ c ∈ p.1.toList, decide (c = '=') = false := by
    intro c mem
    rw [decide_eq_false_iff_not]
    rintro rfl
    exact plain.equals mem
  have text : (pairText p).toList = p.1.toList ++ '=' :: p.2.toList := by simp [pairText]
  rw [text, pairOf, splitAt_append key (by decide)]
  simp

theorem PlainPair.ampersand_not_mem {p : String × String} (plain : PlainPair p) :
    '&' ∉ (pairText p).toList := by
  simp [pairText, plain.ampersandKey, plain.ampersandValue]

/-- A query of plain pairs is read back as these pairs. -/
theorem queryPairs_intercalate {pairs : List (String × String)}
    (plain : ∀ p ∈ pairs, PlainPair p) :
    queryPairs (String.intercalate "&" (pairs.map pairText)) = pairs := by
  cases pairs with
  | nil => rfl
  | cons p rest =>
    have text : (String.intercalate "&" ((p :: rest).map pairText)).toList =
        ['&'].intercalate (((p :: rest).map pairText).map String.toList) :=
      String.toList_intercalate ..
    have parts : pieces (· = '&') (['&'].intercalate (((p :: rest).map pairText).map
        String.toList)) = ((p :: rest).map pairText).map String.toList := by
      refine pieces_intercalate (by simp) (fun part mem c hc => ?_) (by decide)
      rw [List.map_map, List.mem_map] at mem
      obtain ⟨e, inside, rfl⟩ := mem
      rw [decide_eq_false_iff_not]
      rintro rfl
      exact (plain e inside).ampersand_not_mem hc
    -- an empty text would be one empty piece, and every pair has an equals sign
    have some : (String.intercalate "&" ((p :: rest).map pairText)).isEmpty = false := by
      rw [Bool.eq_false_iff, ne_eq, String.isEmpty_iff]
      intro none
      rw [none] at text
      rw [← text] at parts
      have first : "".toList = (pairText p).toList := (List.cons.inj parts).1
      simp [pairText] at first
    rw [queryPairs, some, text, parts, List.map_map, List.map_map]
    exact (List.map_congr_left fun e mem => pairOf_pairText (plain e mem)).trans (List.map_id _)

/-- A parameter as a canonical query shows it. -/
def codedPair (p : String × String) : String × String :=
  (uriEncode p.1, uriEncode p.2)

theorem codedPair_injective : Function.Injective codedPair := by
  intro a b same
  obtain ⟨keys, values⟩ := Prod.mk.inj same
  exact Prod.ext (uriEncode_injective keys) (uriEncode_injective values)

theorem plainPair_codedPair (p : String × String) : PlainPair (codedPair p) where
  equals := not_mem_uriEncode p.1 (by decide) (by decide)
  ampersandKey := not_mem_uriEncode p.1 (by decide) (by decide)
  ampersandValue := not_mem_uriEncode p.2 (by decide) (by decide)

theorem canonicalQuery_eq (params : List (String × String)) : canonicalQuery params =
    String.intercalate "&" (((params.map codedPair).mergeSort pairLE).map pairText) := rfl

/-- The pairs of a canonical query are the coded parameters in their order. -/
theorem queryPairs_canonicalQuery (params : List (String × String)) :
    queryPairs (canonicalQuery params) = (params.map codedPair).mergeSort pairLE := by
  rw [canonicalQuery_eq]
  apply queryPairs_intercalate
  intro e mem
  obtain ⟨p, -, rfl⟩ := List.mem_map.1 (List.mem_mergeSort.1 mem)
  exact plainPair_codedPair p

theorem canonicalQuery_eq_iff (p q : List (String × String)) :
    canonicalQuery p = canonicalQuery q ↔ q.Perm p := by
  rw [← List.map_perm_map_iff codedPair_injective, ← mergeSort_pairLE_eq_iff]
  constructor
  · intro same
    rw [← queryPairs_canonicalQuery, ← queryPairs_canonicalQuery, same]
  · intro same
    rw [canonicalQuery_eq, canonicalQuery_eq, same]

/-- Coding loses nothing. A coded text is made of unreserved characters and escapes and reads back
as the bytes of the text. Two lists of parameters have one query just if they hold the same
parameters equally often; and a query shows each of its parameters, coded, in ascending order of
the keys and then of the values. -/
theorem canonicalQuery_lossless :
    (∀ s : String, PercentCoded (uriEncode s).toList ∧ uriDecode (uriEncode s).toList = utf8 s) ∧
    (∀ p q : List (String × String), canonicalQuery p = canonicalQuery q ↔ q.Perm p) ∧
    ∀ params : List (String × String),
      (queryPairs (canonicalQuery params)).Perm (params.map codedPair) ∧
      (queryPairs (canonicalQuery params)).Pairwise PairsAscend ∧
      canonicalQuery params =
        String.intercalate "&" ((queryPairs (canonicalQuery params)).map pairText) := by
  refine ⟨fun s => ⟨percentCoded_uriEncode s, uriDecode_uriEncode s⟩, canonicalQuery_eq_iff,
    fun params => ?_⟩
  rw [queryPairs_canonicalQuery]
  exact ⟨List.mergeSort_perm _ _, pairwise_mergeSort_pairLE _, canonicalQuery_eq params⟩

end CatalogSearch.Text
