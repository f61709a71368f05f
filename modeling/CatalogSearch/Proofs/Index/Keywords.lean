import CatalogSearch.Index.Memory
import CatalogSearch.Keyed.Lookup
import CatalogSearch.Proofs.Text.ByteOrder
import Mathlib

/-!
# The most common keywords

A keyword counts once for every document that carries it, however often it stands there. Buckets of
more documents come first, and among equals those with the smaller bytes. What an index shows of its
keywords is the beginning of this order, so that whatever is left out comes after all that is shown.
-/
namespace CatalogSearch.Index

/-- The number of documents that carry a keyword. -/
def carriers (documents : List Document) (keyword : String) : Nat :=
  documents.countP fun d => keyword ∈ d.keyword

/-- The bucket `a` comes before the bucket `b`. -/
def Outranks (a b : String × Nat) : Prop :=
  b.2 < a.2 ∨ b.2 = a.2 ∧ Text.utf8 a.1 < Text.utf8 b.1

/-- The first `size` buckets of the keywords that `minCount` documents carry. -/
structure IsTop (size minCount : Nat) (documents : List Document) (shown : List (String × Nat)) :
    Prop where
  distinct : (shown.map (·.1)).Nodup
  counted : ∀ b ∈ shown, b.2 = carriers documents b.1 ∧ minCount ≤ b.2 ∧ 1 ≤ b.2
  ordered : shown.Pairwise Outranks
  few : shown.length ≤ size
  /-- Keywords are left out only if there are too many, and those are left out that come last. -/
  left_out : ∀ d ∈ documents, ∀ keyword ∈ d.keyword, minCount ≤ carriers documents keyword →
    keyword ∉ shown.map (·.1) →
    shown.length = size ∧ ∀ b ∈ shown, Outranks b (keyword, carriers documents keyword)

variable {documents : List Document} {counts : List (String × Nat)} {keywords : List String}
  {keyword : String}

theorem mem_distinct : keyword ∈ distinct keywords ↔ keyword ∈ keywords := by
  have absent : keyword ∉ distinct keywords ↔ keyword ∉ keywords := by
    rw [distinct, ← Keyed.find?_eq_none_iff, Keyed.find?_ofList, Keyed.find?_eq_none_iff]
    simp [Keyed.keys]
  exact not_iff_not.1 absent

theorem nodup_distinct (keywords : List String) : (distinct keywords).Nodup :=
  Keyed.nodup_keys (Keyed.ascending_ofList _)

/-- One more document counts for its keyword alone. -/
theorem find?_countKeyword (counts : List (String × Nat)) (counted keyword : String) :
    (Keyed.find? keyword (countKeyword counts counted)).getD 0 =
      (Keyed.find? keyword counts).getD 0 + if counted = keyword then 1 else 0 := by
  rw [countKeyword, Keyed.find?_insert]
  split
  · next same => rw [same, Option.getD_some]
  · rw [Nat.add_zero]

theorem find?_foldl_countKeyword (keywords : List String) (counts : List (String × Nat))
    (keyword : String) :
    (Keyed.find? keyword (keywords.foldl countKeyword counts)).getD 0 =
      (Keyed.find? keyword counts).getD 0 + keywords.count keyword := by
  induction keywords generalizing counts with
  | nil => rfl
  | cons counted rest ih =>
    rw [List.foldl_cons, ih, find?_countKeyword, List.count_cons]
    simp only [beq_iff_eq]
    omega

/-- A keyword is counted once for every document that carries it. -/
theorem find?_keywordCounts (documents : List Document) (keyword : String) :
    (Keyed.find? keyword (keywordCounts documents)).getD 0 = carriers documents keyword := by
  have grow (counts : List (String × Nat)) :
      (Keyed.find? keyword
        (documents.foldl (fun counts d => (distinct d.keyword).foldl countKeyword counts)
          counts)).getD 0 =
        (Keyed.find? keyword counts).getD 0 + carriers documents keyword := by
    induction documents generalizing counts with
    | nil => rfl
    | cons d rest ih =>
      have once : (distinct d.keyword).count keyword = if keyword ∈ d.keyword then 1 else 0 := by
        rw [(nodup_distinct d.keyword).count]
        simp only [mem_distinct]
      rw [List.foldl_cons, ih, find?_foldl_countKeyword, once, carriers, carriers,
        List.countP_cons]
      simp only [decide_eq_true_eq]
      omega
  rw [keywordCounts, grow []]
  exact Nat.zero_add _

/-- Counts stand in ascending order of their keywords, and none is zero. -/
def Tallied (counts : List (String × Nat)) : Prop :=
  Keyed.Ascending counts ∧ ∀ b ∈ counts, 1 ≤ b.2

theorem Tallied.countKeyword (h : Tallied counts) (keyword : String) :
    Tallied (countKeyword counts keyword) := by
  refine ⟨Keyed.ascending_insert _ _ h.1, fun b mem => ?_⟩
  rcases Keyed.mem_insert mem with rfl | mem
  · exact Nat.le_add_left 1 _
  · exact h.2 b mem

theorem tallied_keywordCounts (documents : List Document) : Tallied (keywordCounts documents) := by
  refine List.foldlRecOn documents _ ⟨.nil, nofun⟩ fun counts h d _ => ?_
  exact List.foldlRecOn (distinct d.keyword) _ h fun counts h keyword _ => h.countKeyword keyword

/-- The buckets are the keywords that some document carries, with the number of those that do. -/
theorem mem_keywordCounts {b : String × Nat} :
    b ∈ keywordCounts documents ↔ b.2 = carriers documents b.1 ∧ 1 ≤ b.2 := by
  obtain ⟨ascending, positive⟩ := tallied_keywordCounts documents
  have total := find?_keywordCounts documents b.1
  constructor
  · intro mem
    rw [Keyed.find?_of_mem ascending mem, Option.getD_some] at total
    exact ⟨total, positive b mem⟩
  · rintro ⟨same, some⟩
    cases found : Keyed.find? b.1 (keywordCounts documents) with
    | none =>
      rw [found, Option.getD_none] at total
      omega
    | some count =>
      rw [found, Option.getD_some, ← same] at total
      rw [total] at found
      exact Keyed.mem_of_find? found

/-- What a bucket is ranked by: more documents come first. -/
def bucketKey (b : String × Nat) : Natᵒᵈ ×ₗ String := toLex (OrderDual.toDual b.2, b.1)

theorem outranks_iff_bucketKey (a b : String × Nat) :
    Outranks a b ↔ bucketKey a < bucketKey b := by
  rw [Outranks, bucketKey, bucketKey, Prod.Lex.toLex_lt_toLex, Text.utf8_lt_utf8_iff,
    OrderDual.toDual_lt_toDual, OrderDual.toDual_inj, eq_comm (a := a.2)]

theorem bucketLE_iff_bucketKey (a b : String × Nat) :
    bucketLE a b = true ↔ bucketKey a ≤ bucketKey b := by
  rw [bucketLE, bucketKey, bucketKey, Prod.Lex.toLex_le_toLex, OrderDual.toDual_lt_toDual,
    OrderDual.toDual_inj, Bool.or_eq_true, Bool.and_eq_true]
  simp only [decide_eq_true_eq]

theorem bucketKey_injective : Function.Injective bucketKey := by
  intro a b same
  obtain ⟨counts, keywords⟩ := Prod.mk.inj (toLex_inj.1 same)
  exact Prod.ext keywords (OrderDual.toDual_inj.1 counts)

/-- The buckets that enough documents fill, in their order. -/
def rankedBuckets (minCount : Nat) (documents : List Document) : List (String × Nat) :=
  ((keywordCounts documents).filter fun b => minCount ≤ b.2).mergeSort bucketLE

theorem mem_rankedBuckets {minCount : Nat} {b : String × Nat} :
    b ∈ rankedBuckets minCount documents ↔
      b.2 = carriers documents b.1 ∧ minCount ≤ b.2 ∧ 1 ≤ b.2 := by
  rw [rankedBuckets, (List.mergeSort_perm _ _).mem_iff, List.mem_filter, mem_keywordCounts,
    decide_eq_true_iff, and_assoc, and_comm (a := 1 ≤ b.2)]

theorem nodup_rankedBuckets (minCount : Nat) (documents : List Document) :
    ((rankedBuckets minCount documents).map (·.1)).Nodup := by
  have keys : ((keywordCounts documents).map (·.1)).Nodup :=
    Keyed.nodup_keys (tallied_keywordCounts documents).1
  have sorted := List.mergeSort_perm
    ((keywordCounts documents).filter fun b => minCount ≤ b.2) bucketLE
  exact (sorted.map (·.1)).nodup_iff.2 (keys.sublist (List.filter_sublist.map _))

/-- Different buckets are never on a par. -/
theorem pairwise_rankedBuckets (minCount : Nat) (documents : List Document) :
    (rankedBuckets minCount documents).Pairwise Outranks := by
  have sorted : (rankedBuckets minCount documents).Pairwise fun a b => bucketLE a b = true := by
    apply List.pairwise_mergeSort
    · intro a b c hab hbc
      rw [bucketLE_iff_bucketKey] at hab hbc ⊢
      exact hab.trans hbc
    · intro a b
      rw [Bool.or_eq_true, bucketLE_iff_bucketKey, bucketLE_iff_bucketKey]
      exact le_total _ _
  have different : (rankedBuckets minCount documents).Pairwise (· ≠ ·) :=
    List.Nodup.of_map _ (nodup_rankedBuckets minCount documents)
  refine (sorted.and different).imp fun {a b} h => ?_
  rw [outranks_iff_bucketKey]
  exact lt_of_le_of_ne ((bucketLE_iff_bucketKey a b).1 h.1) fun same =>
    h.2 (bucketKey_injective same)

/-- The beginning of the order holds the first buckets. -/
theorem isTop_topKeywords (size minCount : Nat) (documents : List Document) :
    IsTop size minCount documents (topKeywords size minCount documents) := by
  have shown : topKeywords size minCount documents =
      (rankedBuckets minCount documents).take size := rfl
  have begins : ((rankedBuckets minCount documents).take size).Sublist
      (rankedBuckets minCount documents) := List.take_sublist _ _
  rw [shown]
  constructor
  case distinct => exact (nodup_rankedBuckets minCount documents).sublist (begins.map (·.1))
  case counted => exact fun b mem => mem_rankedBuckets.1 (begins.subset mem)
  case ordered => exact (pairwise_rankedBuckets minCount documents).sublist begins
  case few => exact List.length_take_le _ _
  case left_out =>
    intro d member keyword carried enough hidden
    have positive : 1 ≤ carriers documents keyword :=
      List.countP_pos_iff.2 ⟨d, member, decide_eq_true carried⟩
    have ranked : (keyword, carriers documents keyword) ∈ rankedBuckets minCount documents :=
      mem_rankedBuckets.2 ⟨rfl, enough, positive⟩
    have order := pairwise_rankedBuckets minCount documents
    rw [← List.take_append_drop size (rankedBuckets minCount documents)] at ranked order
    have dropped : (keyword, carriers documents keyword) ∈
        (rankedBuckets minCount documents).drop size :=
      (List.mem_append.1 ranked).resolve_left fun mem => hidden (List.mem_map_of_mem mem)
    refine ⟨?_, fun b mem => (List.pairwise_append.1 order).2.2 b mem _ dropped⟩
    have longer := List.length_pos_of_mem dropped
    rw [List.length_drop] at longer
    rw [List.length_take]
    omega

section Unique

variable {size minCount : Nat} {shown other : List (String × Nat)}

theorem outranks_asymm {a b : String × Nat} (h : Outranks a b) : ¬ Outranks b a := by
  rw [outranks_iff_bucketKey] at h ⊢
  exact lt_asymm h

/-- A bucket that is missing elsewhere makes room there for one that is missing here. -/
theorem IsTop.subset (h : IsTop size minCount documents shown)
    (h' : IsTop size minCount documents other) : shown ⊆ other := by
  -- A bucket left out of `top` comes after all of it.
  have behind {top : List (String × Nat)} (top_is : IsTop size minCount documents top)
      {b : String × Nat} (count : b.2 = carriers documents b.1) (enough : minCount ≤ b.2)
      (positive : 1 ≤ b.2) (missing : b ∉ top) :
      top.length = size ∧ ∀ t ∈ top, Outranks t b := by
    have hidden : b.1 ∉ top.map (·.1) := fun mem => by
      obtain ⟨t, member, same⟩ := List.mem_map.1 mem
      have equal : t = b := by
        refine Prod.ext same ?_
        rw [(top_is.counted t member).1, count, same]
      exact missing (equal ▸ member)
    rw [count] at enough positive
    obtain ⟨d, member, carried⟩ := List.countP_pos_iff.1 positive
    have last := top_is.left_out d member b.1 (of_decide_eq_true carried) enough hidden
    rwa [← count] at last
  intro b member
  by_contra missing
  obtain ⟨count, enough, positive⟩ := h.counted b member
  obtain ⟨full, before⟩ := behind h' count enough positive missing
  -- The other list is full, so it holds a bucket that is not shown.
  obtain ⟨t, there, absent⟩ : ∃ t ∈ other, t ∉ shown := by
    by_contra! inside
    have sub : other.Subperm shown := List.subperm_of_subset (.of_map _ h'.distinct) inside
    have perm := sub.perm_of_length_le (by rw [full]; exact h.few)
    exact missing (perm.mem_iff.2 member)
  obtain ⟨count', enough', positive'⟩ := h'.counted t there
  exact outranks_asymm (before t there) ((behind h count' enough' positive' absent).2 b member)

/-- There is only one list of the first buckets. -/
theorem IsTop.unique (h : IsTop size minCount documents shown)
    (h' : IsTop size minCount documents other) : shown = other := by
  have irreflexive : Std.Irrefl Outranks := ⟨fun a same => outranks_asymm same same⟩
  have antisymmetric : Std.Antisymm Outranks :=
    ⟨fun a b before after => absurd after (outranks_asymm before)⟩
  exact h.ordered.eq_of_mem_iff h'.ordered fun b =>
    ⟨fun mem => h.subset h' mem, fun mem => h'.subset h mem⟩

end Unique

/-- An index that exists shows the first buckets of its keywords, and no other list is this. -/
theorem keywordTerms_top {index : Memory} (present : index.mapping.isSome = true)
    (size minCount : Nat) :
    ∃ shown, index.answer (.keywordTerms size minCount) = (.ok shown, index) ∧
      IsTop size minCount (Keyed.values index.documents) shown ∧
      ∀ other, IsTop size minCount (Keyed.values index.documents) other → other = shown := by
  have top := isTop_topKeywords size minCount (Keyed.values index.documents)
  refine ⟨_, ?_, top, fun other h => h.unique top⟩
  obtain ⟨mapping, hmapping⟩ := Option.isSome_iff_exists.1 present
  rw [Memory.answer, Memory.ifExists, hmapping]

/-- Three keywords that two documents carry, one of them twice in one document, and a rare one. -/
def tied : Memory :=
  ((({} : Memory).put
    { (default : Document) with id := "a", keyword := ["water", "river", "water"] }).put
    { (default : Document) with id := "b", keyword := ["water", "lake", "ice"] }).put
    { (default : Document) with id := "c", keyword := ["river", "lake"] }

/-- The tie is cut by the bytes of the keywords. -/
theorem keywordTerms_top_tied :
    tied.mapping.isSome = true ∧
      IsTop 2 1 (Keyed.values tied.documents) [("lake", 2), ("river", 2)] := by
  have present : tied.mapping.isSome = true := rfl
  obtain ⟨shown, answered, top, -⟩ := keywordTerms_top present 2 1
  have evaluated : (tied.answer (.keywordTerms 2 1)).1 = .ok [("lake", 2), ("river", 2)] := by
    cbv
  rw [answered] at evaluated
  obtain rfl := Except.ok.inj evaluated
  exact ⟨present, top⟩

end CatalogSearch.Index
