import CatalogSearch.Proofs.Index.Sound
import CatalogSearch.Proofs.Rehearsal.Disturbed
import Mathlib

/-!
# Ranked search

The hits of a search stand in a strict order that is total on documents with different ids. A
search finds the documents that its filters admit and its query matches, every page of it is a
window of one ranking, and pages in a row hold each of the documents once.
-/
namespace CatalogSearch.Index

structure Filters.Admits (filters : Filters) (d : Document) : Prop where
  organization : ∀ id, filters.orgId = some id → d.organization.id = id
  type : filters.orgTypes ≠ [] →
    ∃ type ∈ filters.orgTypes, d.organization.organizationType = some type
  keywords : ∀ keyword ∈ filters.keywords, keyword ∈ d.keyword

theorem Filters.accept_iff (filters : Filters) (d : Document) :
    filters.accept d = true ↔ filters.Admits d := by
  unfold Filters.accept
  rw [Bool.and_eq_true, Bool.and_eq_true]
  constructor
  · rintro ⟨⟨organization, type⟩, keywords⟩
    refine ⟨fun id hid => ?_, fun some_type => ?_, by simpa using keywords⟩
    · rw [hid] at organization
      simpa using organization
    · cases htype : d.organization.organizationType with
      | none => simp [htype, some_type] at type
      | some type' => simpa [htype, some_type] using type
  · intro h
    refine ⟨⟨?_, ?_⟩, by simpa using h.keywords⟩
    · cases hid : filters.orgId with
      | none => rfl
      | some id => simpa using h.organization id hid
    · by_cases some_type : filters.orgTypes = []
      · simp [some_type]
      · obtain ⟨type, listed, htype⟩ := h.type some_type
        simp [htype, listed]

/-- A document that the filters admit and the query matches. -/
def Wanted (query : Query) (filters : Filters) (d : Document) : Prop :=
  filters.Admits d ∧ (query.score d).isSome = true

instance (query : Query) (filters : Filters) : DecidablePred (Wanted query filters) := fun d =>
  decidable_of_iff (filters.accept d = true ∧ (query.score d).isSome = true)
    (and_congr_left fun _ => filters.accept_iff d)

theorem decide_wanted (query : Query) (filters : Filters) (d : Document) :
    decide (Wanted query filters d) = (filters.accept d && (query.score d).isSome) := by
  rw [Bool.eq_iff_iff, decide_eq_true_iff, Bool.and_eq_true, Filters.accept_iff, Wanted]

def hitOf (query : Query) (d : Document) : Hit := ((query.score d).getD 0, d)

/-- The rank of a popularity; a document that has none comes last. -/
def popularityRank : Option Int → WithBot Int
  | some n => n
  | none => ⊥

/-- The hit `a` stands before the hit `b`: greater scores come first, then greater popularities,
then greater ids, as far as the order looks at them. -/
def Precedes (sort : SortMode) (a b : Hit) : Prop :=
  let byId := b.2.id < a.2.id
  let byPopularity := popularityRank b.2.popularity < popularityRank a.2.popularity ∨
    (popularityRank b.2.popularity = popularityRank a.2.popularity ∧ byId)
  match sort with
  | .relevance => b.1 < a.1 ∨ (b.1 = a.1 ∧ byPopularity)
  | .popularity => byPopularity
  | .idOnly => byId

theorem comparePopularity_eq_gt_iff (a b : Option Int) :
    comparePopularity a b = .gt ↔ popularityRank a < popularityRank b := by
  cases a <;> cases b <;> simp [comparePopularity, popularityRank, compare_gt_iff_gt]

theorem comparePopularity_eq_eq_iff (a b : Option Int) :
    comparePopularity a b = .eq ↔ popularityRank a = popularityRank b := by
  cases a with
  | none => cases b <;> simp [comparePopularity, popularityRank]
  | some n =>
    cases b with
    | none => simp [comparePopularity, popularityRank]
    | some k =>
      rw [comparePopularity, compare_eq_iff_eq, popularityRank, popularityRank, WithBot.coe_inj,
        eq_comm]

/-- Hits compare as greater when they stand the other way round. -/
theorem compareHits_eq_gt_iff (sort : SortMode) (a b : Hit) :
    compareHits sort a b = .gt ↔ Precedes sort b a := by
  have byId : compare b.2.id a.2.id = .gt ↔ a.2.id < b.2.id := compare_gt_iff_gt
  have byPopularity : (comparePopularity a.2.popularity b.2.popularity).then
      (compare b.2.id a.2.id) = .gt ↔
        popularityRank a.2.popularity < popularityRank b.2.popularity ∨
          (popularityRank a.2.popularity = popularityRank b.2.popularity ∧
            a.2.id < b.2.id) := by
    rw [Ordering.then_eq_gt, comparePopularity_eq_gt_iff, comparePopularity_eq_eq_iff, byId]
  have byScore : compare b.1 a.1 = .gt ↔ a.1 < b.1 := compare_gt_iff_gt
  have sameScore : compare b.1 a.1 = .eq ↔ a.1 = b.1 := by
    rw [compare_eq_iff_eq, eq_comm]
  unfold compareHits Precedes
  cases sort with
  | relevance => rw [Ordering.then_eq_gt, byScore, sameScore, byPopularity]
  | popularity => exact byPopularity
  | idOnly => exact byId

/-- What a hit is ranked by. What an order does not look at is the same for all hits. -/
def rankKey (sort : SortMode) (h : Hit) : Nat ×ₗ WithBot Int ×ₗ String :=
  match sort with
  | .relevance => toLex (h.1, toLex (popularityRank h.2.popularity, h.2.id))
  | .popularity => toLex (0, toLex (popularityRank h.2.popularity, h.2.id))
  | .idOnly => toLex (0, toLex (⊥, h.2.id))

/-- The greater key comes first, so that the order of hits is one of the linear orders. -/
theorem precedes_iff_rankKey (sort : SortMode) (a b : Hit) :
    Precedes sort a b ↔ rankKey sort b < rankKey sort a := by
  cases sort <;> simp [Precedes, rankKey, Prod.Lex.toLex_lt_toLex]

/-- Hits of different documents do not have the same rank. -/
theorem id_of_rankKey {sort : SortMode} {a b : Hit} (h : rankKey sort a = rankKey sort b) :
    a.2.id = b.2.id := by
  cases sort with
  | relevance => exact congrArg (fun key => (ofLex (ofLex key).2).2) h
  | popularity => exact congrArg (fun key => (ofLex (ofLex key).2).2) h
  | idOnly => exact congrArg (fun key => (ofLex (ofLex key).2).2) h

/-- Equal scores do not matter for the order. -/
theorem precedes_of_scores (sort : SortMode) (s t : Nat) (a b : Document) :
    Precedes sort (s, a) (s, b) ↔ Precedes sort (t, a) (t, b) := by
  cases sort <;> simp [Precedes]

/-- Hits of different documents are ranked in the order of hits. -/
theorem pairwise_rankedHits (request : SearchRequest) {documents : List Document}
    (distinct : ((hits request documents).map fun h => h.2.id).Nodup) :
    (rankedHits request documents).Pairwise (Precedes request.sort) := by
  have le_iff (a b : Hit) : (compareHits request.sort a b != .gt) = true ↔
      rankKey request.sort b ≤ rankKey request.sort a := by
    rw [bne_iff_ne, Ne, compareHits_eq_gt_iff, precedes_iff_rankKey, not_lt]
  have sorted : (rankedHits request documents).Pairwise fun a b =>
      (compareHits request.sort a b != .gt) = true := by
    apply List.pairwise_mergeSort
    · intro a b c hab hbc
      rw [le_iff] at hab hbc ⊢
      exact hbc.trans hab
    · intro a b
      rw [Bool.or_eq_true, le_iff, le_iff]
      exact le_total _ _
  have different : (rankedHits request documents).Pairwise fun a b => a.2.id ≠ b.2.id := by
    have perm := (List.mergeSort_perm (hits request documents) fun a b =>
      compareHits request.sort a b != .gt).map fun h => h.2.id
    exact List.pairwise_map.1 (perm.nodup_iff.2 distinct)
  refine (sorted.and different).imp fun {a b} h => ?_
  rw [precedes_iff_rankKey]
  refine lt_of_le_of_ne ((le_iff a b).1 h.1) fun same => ?_
  exact h.2 (id_of_rankKey same).symm

/-- The order that a search goes by: the id alone where a query matches everything and no keyword
is asked for. -/
def effectiveSort (query : Query) (filters : Filters) (sort : SortMode) : SortMode :=
  if query.isMatchAll = true ∧ filters.keywords = [] then .idOnly else sort

theorem sort_searchRequest (query : Query) (filters : Filters) (sort : SortMode)
    (size start : Nat) :
    (Client.searchRequest query filters sort size start).sort =
      effectiveSort query filters sort := by
  cases hkeywords : filters.keywords <;>
    simp [Client.searchRequest, effectiveSort, hkeywords]

/-- The hits of a search are the wanted documents. A query that matches everything does not score,
which makes no difference to the order. -/
theorem hits_searchRequest (query : Query) (filters : Filters) (sort : SortMode)
    (size start : Nat) (documents : List Document) :
    ∃ weigh : Document → Nat,
      hits (Client.searchRequest query filters sort size start) documents =
        (documents.filter (Wanted query filters)).map (fun d => (weigh d, d)) ∧
      ∀ order a b, Precedes order (weigh a, a) (weigh b, b) →
        Precedes order (hitOf query a) (hitOf query b) := by
  by_cases all : query.isMatchAll = true
  · obtain rfl : query = .matchAll := by cases query <;> simp_all [Query.isMatchAll]
    refine ⟨fun _ => 0, ?_, fun order a b h => (precedes_of_scores order 0 1 a b).1 h⟩
    have wanted : documents.filter (Wanted .matchAll filters) =
        documents.filter filters.accept := by
      refine List.filter_congr fun d _ => ?_
      rw [decide_wanted, Query.score, Option.isSome_some, Bool.and_true]
    rw [wanted]
    simp [hits, Client.searchRequest, Query.isMatchAll]
  · refine ⟨fun d => (query.score d).getD 0, ?_, fun _ _ _ h => h⟩
    have scored (d : Document) : ((query.score d).map fun s => (s, d)) =
        if (query.score d).isSome then some ((query.score d).getD 0, d) else none := by
      cases query.score d <;> rfl
    simp only [hits, Client.searchRequest, all, Bool.false_eq_true, if_false, scored,
      decide_wanted]
    rw [List.filterMap_filter, ← List.filterMap_eq_map, List.filterMap_filter]
    refine List.filterMap_congr fun d _ => ?_
    cases filters.accept d <;> simp

/-- The documents that a search finds, in their order. -/
def ranking (query : Query) (filters : Filters) (sort : SortMode) (documents : List Document) :
    List Document :=
  (rankedHits (Client.searchRequest query filters sort 0 0) documents).map (·.2)

variable (query : Query) (filters : Filters) (sort : SortMode)

theorem ranking_perm (documents : List Document) :
    (ranking query filters sort documents).Perm (documents.filter (Wanted query filters)) := by
  obtain ⟨weigh, found, -⟩ := hits_searchRequest query filters sort 0 0 documents
  have sorted := (List.mergeSort_perm (hits (Client.searchRequest query filters sort 0 0) documents)
    fun a b => compareHits (Client.searchRequest query filters sort 0 0).sort a b != .gt).map (·.2)
  have plain : (hits (Client.searchRequest query filters sort 0 0) documents).map (·.2) =
      documents.filter (Wanted query filters) := by
    rw [found, List.map_map]
    exact List.map_id _
  rw [plain] at sorted
  exact sorted

/-- Different documents are ranked in the order of their hits. -/
theorem pairwise_ranking {documents : List Document} (distinct : (documents.map (·.id)).Nodup) :
    (ranking query filters sort documents).Pairwise fun a b =>
      Precedes (effectiveSort query filters sort) (hitOf query a) (hitOf query b) := by
  obtain ⟨weigh, found, order⟩ := hits_searchRequest query filters sort 0 0 documents
  have ids : ((hits (Client.searchRequest query filters sort 0 0) documents).map
      fun h => h.2.id).Nodup := by
    rw [found, List.map_map]
    exact distinct.sublist (List.filter_sublist.map _)
  have ranked := pairwise_rankedHits (Client.searchRequest query filters sort 0 0) ids
  rw [sort_searchRequest] at ranked
  have weighed (h : Hit)
      (mem : h ∈ rankedHits (Client.searchRequest query filters sort 0 0) documents) :
      h = (weigh h.2, h.2) := by
    have mem := (List.mergeSort_perm _ _).mem_iff.1 mem
    rw [found] at mem
    obtain ⟨d, -, rfl⟩ := List.mem_map.1 mem
    rfl
  refine List.pairwise_map.2 (ranked.imp_of_mem fun {a b} ha hb h => ?_)
  rw [weighed a ha, weighed b hb] at h
  exact order _ _ _ h

/-- A search shows a window of the ranking, however large the window is and wherever it starts. -/
theorem searchIn_searchRequest (size start : Nat) (documents : List Document) :
    searchIn (Client.searchRequest query filters sort size start) documents =
      ⟨(documents.filter (Wanted query filters)).length,
        ((ranking query filters sort documents).drop start).take size⟩ := by
  have length := (ranking_perm query filters sort documents).length_eq
  rw [ranking, List.length_map] at length
  rw [ranking, ← length, ← List.map_drop, ← List.map_take]
  rfl

/-- Windows of one width side by side hold the list from its beginning. -/
theorem flatMap_windows {α : Type} (items : List α) (size count : Nat) :
    (List.range count).flatMap (fun n => (items.drop (n * size)).take size) =
      items.take (count * size) := by
  induction count with
  | zero => simp
  | succ count ih =>
    rw [List.range_succ, List.flatMap_append, ih, Nat.succ_mul, List.take_add]
    simp

/-- The documents of an index have different ids. -/
theorem Memory.Sound.nodup_ids {m : Memory} (h : m.Sound) :
    ((Keyed.values m.documents).map (·.id)).Nodup := by
  have keys : (Keyed.values m.documents).map (·.id) = Keyed.keys m.documents := by
    rw [Keyed.values, List.map_map]
    exact List.map_congr_left fun e he => h.keyed e he
  rw [keys]
  exact Keyed.nodup_keys h.ascending

open Rehearsal (calm)

theorem run_searchPage (store : Store.Memory) {index : Memory} (journal : Rehearsal.Journal)
    (present : index.mapping.isSome = true) (size start : Nat) :
    (calm store index journal).run (Client.searchPage query filters sort size start) =
      (.ok ⟨((Keyed.values index.documents).filter (Wanted query filters)).length,
          ((ranking query filters sort (Keyed.values index.documents)).drop start).take size⟩,
        calm store index { journal with calls := journal.calls ++ ["search"] }) := by
  have answered : index.answer (.search (Client.searchRequest query filters sort size start)) =
      (.ok (searchIn (Client.searchRequest query filters sort size start)
        (Keyed.values index.documents)), index) := by
    obtain ⟨mapping, hmapping⟩ := Option.isSome_iff_exists.1 present
    rw [Memory.answer, Memory.ifExists, hmapping]
  have handled : Rehearsal.Stage.handler
      (.index (.search (Client.searchRequest query filters sort size start)))
      (calm store index journal) = _ := Rehearsal.handler_index_calm _
  rw [answered, searchIn_searchRequest] at handled
  exact handled

/-- A search counts the documents that are admitted and match, and shows a window of their ranking;
windows in a row show the whole ranking. -/
theorem searchPage_ranked (store : Store.Memory) {index : Memory} (journal : Rehearsal.Journal)
    (sound : index.Sound) (present : index.mapping.isSome = true) :
    ∃ ranked : List Document,
      ranked.Perm ((Keyed.values index.documents).filter (Wanted query filters)) ∧
      (ranked.map (·.id)).Nodup ∧
      ranked.Pairwise (fun a b =>
        Precedes (effectiveSort query filters sort) (hitOf query a) (hitOf query b)) ∧
      (∀ size start, (calm store index journal).run
          (Client.searchPage query filters sort size start) =
        (.ok ⟨((Keyed.values index.documents).filter (Wanted query filters)).length,
            (ranked.drop start).take size⟩,
          calm store index { journal with calls := journal.calls ++ ["search"] })) ∧
      ∀ (size : Nat) (pages : Nat → SearchResult),
        (∀ n, ((calm store index journal).run
          (Client.searchPage query filters sort size (n * size))).1 = .ok (pages n)) →
        ∀ count, ranked.length ≤ count * size →
          (List.range count).flatMap (fun n => (pages n).items) = ranked := by
  have perm := ranking_perm query filters sort (Keyed.values index.documents)
  refine ⟨ranking query filters sort (Keyed.values index.documents), perm, ?_,
    pairwise_ranking query filters sort sound.nodup_ids,
    run_searchPage query filters sort store journal present, ?_⟩
  · exact (perm.map (·.id)).nodup_iff.2 (sound.nodup_ids.sublist (List.filter_sublist.map _))
  · intro size pages shown count enough
    have windows (n : Nat) : (pages n).items =
        ((ranking query filters sort (Keyed.values index.documents)).drop (n * size)).take
          size := by
      have here := shown n
      rw [run_searchPage query filters sort store journal present] at here
      rw [← Except.ok.inj here]
    rw [funext windows, flatMap_windows, List.take_of_length_le enough]

/-- Four documents: two are equally popular, one is popular but scores less, and one has no
popularity. -/
def waters : Memory :=
  (((({} : Memory).put { (default : Document) with id := "a", title := "Water" }).put
    { (default : Document) with id := "b", title := "water", popularity := some 3 }).put
    { (default : Document) with id := "c", keyword := ["water"], popularity := some 9 }).put
    { (default : Document) with id := "d", title := "water", popularity := some 3 }

/-- Equal scores fall back on the popularity and equal popularities on the id; two pages of two
hold the four documents. -/
theorem searchPage_ranked_ties :
    waters.Sound ∧ waters.mapping.isSome = true ∧
      ∃ ranked : List Document, ranked.map (·.id) = ["d", "b", "a", "c"] ∧
        (∀ start, ((calm {} waters {}).run
          (Client.searchPage (.allWords "water") {} .relevance 2 start)).1 =
            .ok ⟨4, (ranked.drop start).take 2⟩) ∧
        ∀ pages : Nat → SearchResult,
          (∀ n, ((calm {} waters {}).run
            (Client.searchPage (.allWords "water") {} .relevance 2 (n * 2))).1 = .ok (pages n)) →
          (List.range 2).flatMap (fun n => (pages n).items) = ranked := by
  have sound : waters.Sound :=
    (((Memory.sound_initial.put _).put _).put _).put _
  obtain ⟨ranked, perm, -, -, found, windows⟩ :=
    searchPage_ranked (.allWords "water") {} .relevance {} {} sound rfl
  have total : ((Keyed.values waters.documents).filter (Wanted (.allWords "water") {})).length =
      4 := by
    cbv
  have whole : ((calm {} waters {}).run
      (Client.searchPage (.allWords "water") {} .relevance 4 0)).1.toOption.map
        (fun r => r.items.map (·.id)) = some ["d", "b", "a", "c"] := by
    cbv
  have length : ranked.length = 4 := by rw [perm.length_eq, total]
  rw [total] at found
  refine ⟨sound, rfl, ranked, ?_, fun start => ?_, fun pages shown => ?_⟩
  · rw [found, List.drop_zero, List.take_of_length_le (by rw [length])] at whole
    exact Option.some.inj whole
  · rw [found]
  · exact windows 2 pages shown 2 (by rw [length])

end CatalogSearch.Index
