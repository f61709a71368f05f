import CatalogSearch.Query.Compile
import CatalogSearch.Proofs.Text.Trimmed

/-!
# Words with the blanks before them

`segments` loses nothing of a text but the blanks at its end, so what trimming and dropping
operators do to a text can be said of its segments.
-/
namespace CatalogSearch.Query

open Text

/-- A word with the blanks before it. -/
abbrev Segment := List Char × List Char

def joined (segs : List Segment) : List Char :=
  segs.flatMap fun seg => seg.1 ++ seg.2

@[simp] theorem joined_nil : joined [] = [] := rfl

@[simp] theorem joined_cons (seg : Segment) (segs : List Segment) :
    joined (seg :: segs) = seg.1 ++ seg.2 ++ joined segs := by
  simp [joined]

@[simp] theorem joined_append (segs more : List Segment) :
    joined (segs ++ more) = joined segs ++ joined more := by
  simp [joined]

/-- Words without blanks, each behind blanks; only the first may have none before it. -/
structure Spaced (segs : List Segment) : Prop where
  gap : ∀ seg ∈ segs, ∀ c ∈ seg.1, isBlank c = true
  word : ∀ seg ∈ segs, seg.2 ≠ [] ∧ ∀ c ∈ seg.2, isBlank c = false
  apart : ∀ seg ∈ segs.tail, seg.1 ≠ []

namespace Spaced

theorem nil : Spaced [] := ⟨by simp, by simp, by simp⟩

theorem tail {seg : Segment} {segs : List Segment} (spaced : Spaced (seg :: segs)) :
    Spaced segs where
  gap other hmem := spaced.gap other (List.mem_cons_of_mem _ hmem)
  word other hmem := spaced.word other (List.mem_cons_of_mem _ hmem)
  apart other hmem := spaced.apart other (List.mem_of_mem_tail hmem)

theorem init {segs more : List Segment} (spaced : Spaced (segs ++ more)) : Spaced segs where
  gap other hmem := spaced.gap other (List.mem_append_left _ hmem)
  word other hmem := spaced.word other (List.mem_append_left _ hmem)
  apart other hmem := by
    apply spaced.apart other
    cases segs with
    | nil => simp at hmem
    | cons seg segs => exact List.mem_append_left _ hmem

theorem suffix {segs more : List Segment} (spaced : Spaced (segs ++ more)) : Spaced more := by
  induction segs with
  | nil => exact spaced
  | cons seg segs ih => exact ih spaced.tail

/-- Behind the first word the text is at its end or at a blank. -/
theorem head_blank {seg : Segment} {segs : List Segment} (spaced : Spaced (seg :: segs)) :
    ∀ c ∈ (joined segs).head?, isBlank c = true := by
  intro c hc
  cases segs with
  | nil => simp at hc
  | cons next more =>
    have apart := spaced.apart next (by simp)
    have blank := spaced.gap next (by simp)
    obtain ⟨gap, word⟩ := next
    cases gap with
    | nil => exact absurd rfl apart
    | cons first gap =>
      simp only [joined_cons, List.cons_append, List.head?_cons, Option.mem_some_iff] at hc
      subst hc
      exact blank first (by simp)

/-- Behind any word the text is at its end or at a blank. -/
theorem head_blank_of_append {segs more : List Segment} (spaced : Spaced (segs ++ more))
    (some : segs ≠ []) : ∀ c ∈ (joined more).head?, isBlank c = true := by
  induction segs with
  | nil => exact absurd rfl some
  | cons seg segs ih =>
    cases segs with
    | nil => exact spaced.head_blank
    | cons next segs => exact ih spaced.tail (by simp)

theorem last_solid {segs : List Segment} (spaced : Spaced segs) :
    ∀ c ∈ (joined segs).getLast?, isBlank c = false := by
  intro c hc
  rcases List.eq_nil_or_concat segs with rfl | ⟨init, ⟨gap, word⟩, rfl⟩
  · simp at hc
  · have solid := spaced.word (gap, word) (by simp)
    rw [List.concat_eq_append, joined_append, joined_cons, joined_nil, List.append_nil,
      ← List.append_assoc, List.getLast?_append_of_ne_nil _ solid.1] at hc
    exact solid.2 c (List.mem_of_getLast? hc)

end Spaced

/-- Blanks put before a text widen the gap before its first word. -/
def widen (gap : List Char) : List Segment → List Segment
  | [] => []
  | (first, word) :: more => (gap ++ first, word) :: more

theorem segments_blank {c : Char} (blank : isBlank c = true) (s : List Char) :
    segments (c :: s) = widen [c] (segments s) := by
  rw [segments, if_pos blank]
  cases segments s <;> rfl

theorem spaced_segments (s : List Char) : Spaced (segments s) := by
  induction s with
  | nil => exact .nil
  | cons c s ih =>
    by_cases blank : isBlank c = true
    · rw [segments_blank blank]
      cases split : segments s with
      | nil => exact .nil
      | cons seg more =>
        rw [split] at ih
        constructor
        · simp only [widen, List.mem_cons, forall_eq_or_imp, List.cons_append, List.nil_append]
          exact ⟨⟨blank, ih.gap seg (by simp)⟩, fun other h => ih.gap other (by simp [h])⟩
        · simp only [widen, List.mem_cons, forall_eq_or_imp]
          exact ⟨ih.word seg (by simp), fun other h => ih.word other (by simp [h])⟩
        · exact ih.apart
    · have solid : isBlank c = false := by simpa using blank
      rw [segments, if_neg blank]
      split
      · rename_i word more split
        rw [split] at ih
        constructor
        · simp only [List.mem_cons, forall_eq_or_imp]
          exact ⟨by simp, fun other h => ih.gap other (by simp [h])⟩
        · simp only [List.mem_cons, forall_eq_or_imp]
          exact ⟨⟨by simp, solid, (ih.word ([], word) (by simp)).2⟩,
            fun other h => ih.word other (by simp [h])⟩
        · exact ih.apart
      · rename_i away
        constructor
        · simp only [List.mem_cons, forall_eq_or_imp]
          exact ⟨by simp, ih.gap⟩
        · simp only [List.mem_cons, forall_eq_or_imp]
          exact ⟨⟨by simp, by simpa using solid⟩, ih.word⟩
        · -- The word that follows starts after a blank, or it would have taken `c` in.
          intro seg hmem
          cases split : segments s with
          | nil => simp [split] at hmem
          | cons first more =>
            rw [List.tail_cons, split] at hmem
            rcases List.mem_cons.1 hmem with rfl | hmem
            · rintro hgap
              exact away seg.2 more (by rw [split, ← hgap])
            · exact ih.apart seg (by simpa [split] using hmem)

/-- What `segments` leaves out stands at the end of the text and is blank. -/
theorem eq_joined_segments (s : List Char) :
    ∃ blanks, (∀ c ∈ blanks, isBlank c = true) ∧ s = joined (segments s) ++ blanks := by
  induction s with
  | nil => exact ⟨[], by simp, rfl⟩
  | cons c s ih =>
    obtain ⟨blanks, hblanks, hs⟩ := ih
    by_cases blank : isBlank c = true
    · rw [segments_blank blank]
      cases split : segments s with
      | nil =>
        rw [split] at hs
        refine ⟨c :: blanks, by simpa [blank] using hblanks, by simpa [widen] using hs⟩
      | cons seg more =>
        rw [split] at hs
        exact ⟨blanks, hblanks, by simpa [widen] using hs⟩
    · refine ⟨blanks, hblanks, ?_⟩
      rw [segments, if_neg blank]
      split
      · rename_i split
        rw [split] at hs
        simpa using hs
      · simpa using hs

theorem segments_append {s t : List Char} (hs : ∀ c ∈ s.getLast?, isBlank c = false)
    (ht : ∀ c ∈ t.head?, isBlank c = true) : segments (s ++ t) = segments s ++ segments t := by
  induction s with
  | nil => rfl
  | cons c s ih =>
    cases s with
    | nil =>
      have solid : ¬ isBlank c = true := by simp [hs c rfl]
      cases t with
      | nil => simp [segments]
      | cons d t =>
        rw [List.singleton_append, segments, if_neg solid, segments_blank (ht d rfl)]
        cases segments t <;> simp [segments, widen, solid]
    | cons d s =>
      have rest := ih (by simpa using hs)
      have some : segments (d :: s) ≠ [] := by
        intro none
        obtain ⟨blanks, hblanks, heq⟩ := eq_joined_segments (d :: s)
        rw [none, joined_nil, List.nil_append] at heq
        have last := List.getLast?_eq_some_getLast (l := d :: s) (by simp)
        have solid := hs _ (by simpa using last)
        have blank := hblanks _ (by rw [← heq]; exact List.mem_of_getLast? last)
        simp [solid] at blank
      by_cases blank : isBlank c = true
      · rw [List.cons_append, segments_blank blank, segments_blank blank, rest]
        cases split : segments (d :: s) with
        | nil => exact absurd split some
        | cons seg more => rfl
      · rw [List.cons_append, segments, if_neg blank, segments, if_neg blank, rest]
        cases split : segments (d :: s) with
        | nil => exact absurd split some
        | cons seg more =>
          obtain ⟨gap, word⟩ := seg
          cases gap <;> rfl

theorem segments_gap {gap : List Char} (blank : ∀ c ∈ gap, isBlank c = true) (s : List Char) :
    segments (gap ++ s) = widen gap (segments s) := by
  induction gap with
  | nil => cases split : segments s <;> simp [widen, split]
  | cons c gap ih =>
    rw [List.cons_append, segments_blank (blank c (by simp)), ih fun d h => blank d (by simp [h])]
    cases segments s <;> rfl

theorem segments_word {word : List Char} (nonempty : word ≠ [])
    (solid : ∀ c ∈ word, isBlank c = false) : segments word = [([], word)] := by
  induction word with
  | nil => exact absurd rfl nonempty
  | cons c word ih =>
    rw [segments, if_neg (by simp [solid c])]
    cases word with
    | nil => rfl
    | cons d word => rw [ih (by simp) fun e h => solid e (by simp [h])]

theorem segments_joined {segs : List Segment} (spaced : Spaced segs) :
    segments (joined segs) = segs := by
  induction segs with
  | nil => rfl
  | cons seg more ih =>
    obtain ⟨nonempty, solid⟩ := spaced.word seg (by simp)
    rw [joined_cons, List.append_assoc, segments_gap (spaced.gap seg (by simp)),
      segments_append (fun c hc => solid c (List.mem_of_getLast? hc)) spaced.head_blank,
      segments_word nonempty solid, ih spaced.tail]
    simp [widen]

/-- The segments of a text whose first word has nothing before it any more. -/
def flush : List Segment → List Segment
  | [] => []
  | (_, word) :: more => ([], word) :: more

namespace Spaced

protected theorem flush {segs : List Segment} (spaced : Spaced segs) : Spaced (flush segs) := by
  cases segs with
  | nil => exact .nil
  | cons seg more =>
    constructor
    · simp only [flush, List.mem_cons, forall_eq_or_imp]
      exact ⟨by simp, spaced.tail.gap⟩
    · simp only [flush, List.mem_cons, forall_eq_or_imp]
      exact ⟨spaced.word seg (by simp), spaced.tail.word⟩
    · exact spaced.apart

theorem dropLeading_joined {segs : List Segment} (spaced : Spaced segs) :
    dropLeading (joined segs) = joined (flush segs) := by
  cases segs with
  | nil => rfl
  | cons seg more =>
    obtain ⟨nonempty, solid⟩ := spaced.word seg (by simp)
    obtain ⟨c, word, hword⟩ := List.exists_cons_of_ne_nil nonempty
    rw [joined_cons, List.append_assoc, dropLeading,
      List.dropWhile_append_of_pos (spaced.gap seg (by simp))]
    simp [flush, hword, solid c (by simp [hword])]

/-- A text that starts with its first word has no blank at either end. -/
theorem trimmed_flush {segs : List Segment} (spaced : Spaced segs) :
    Trimmed (joined (flush segs)) := by
  refine ⟨?_, spaced.flush.last_solid⟩
  intro c hc
  have hlead := spaced.flush.dropLeading_joined
  have again : flush (flush segs) = flush segs := by cases segs <;> rfl
  rw [again, dropLeading] at hlead
  have first := List.head?_dropWhile_not isBlank (joined (flush segs))
  rw [hlead, hc] at first
  exact first

end Spaced

theorem dropTrailing_append_blanks {s blanks : List Char}
    (hs : ∀ c ∈ s.getLast?, isBlank c = false) (hblanks : ∀ c ∈ blanks, isBlank c = true) :
    dropTrailing (s ++ blanks) = s := by
  rw [dropTrailing, List.reverse_append,
    List.dropWhile_append_of_pos fun c hc => hblanks c (List.mem_reverse.1 hc)]
  have lead := dropLeading_eq_self (s := s.reverse) fun c hc => hs c (by simpa using hc)
  rw [dropLeading] at lead
  rw [lead, List.reverse_reverse]

theorem trimChars_eq_joined (s : List Char) : trimChars s = joined (flush (segments s)) := by
  obtain ⟨blanks, hblanks, hs⟩ := eq_joined_segments s
  have spaced := spaced_segments s
  generalize segments s = segs at hs spaced
  subst hs
  cases segs with
  | nil =>
    have all : dropLeading blanks = [] := List.dropWhile_eq_nil_iff.2 hblanks
    simp [trimChars, all, flush, dropTrailing]
  | cons seg more =>
    obtain ⟨nonempty, solid⟩ := spaced.word seg (by simp)
    have lead : dropLeading (joined (seg :: more) ++ blanks) =
        joined (flush (seg :: more)) ++ blanks := by
      obtain ⟨c, word, hword⟩ := List.exists_cons_of_ne_nil nonempty
      rw [joined_cons, List.append_assoc, List.append_assoc, dropLeading,
        List.dropWhile_append_of_pos (spaced.gap seg (by simp))]
      simp [flush, hword, solid c (by simp [hword])]
    rw [trimChars, lead]
    exact dropTrailing_append_blanks spaced.flush.last_solid hblanks

theorem segments_trimChars (s : List Char) : segments (trimChars s) = flush (segments s) := by
  rw [trimChars_eq_joined, segments_joined (spaced_segments s).flush]

/-- A list without its first element if that satisfies `p`. -/
def shedFirst {α : Type} (p : α → Bool) : List α → List α
  | [] => []
  | a :: more => if p a then more else a :: more

/-- A list without its last element if that satisfies `p`. -/
def shedLast {α : Type} (p : α → Bool) (l : List α) : List α :=
  if l.getLast?.any p then l.dropLast else l

theorem map_shedFirst {α β : Type} (p : β → Bool) (f : α → β) (l : List α) :
    (shedFirst (fun a => p (f a)) l).map f = shedFirst p (l.map f) := by
  cases l with
  | nil => rfl
  | cons a more => by_cases h : p (f a) <;> simp [shedFirst, h]

theorem map_shedLast {α β : Type} (p : β → Bool) (f : α → β) (l : List α) :
    (shedLast (fun a => p (f a)) l).map f = shedLast p (l.map f) := by
  have same : (l.map f).getLast?.any p = l.getLast?.any fun a => p (f a) := by
    rw [List.getLast?_map, Option.any_map]
  rw [shedLast, shedLast, same]
  split
  · rw [List.map_dropLast]
  · rfl

theorem shedLast_append {α : Type} (p : α → Bool) (l : List α) {more : List α}
    (some : more ≠ []) : shedLast p (l ++ more) = l ++ shedLast p more := by
  rw [shedLast, shedLast, List.getLast?_append_of_ne_nil _ some,
    List.dropLast_append_of_ne_nil some]
  split <;> rfl

def endsInOr (seg : Segment) : Bool := isOr seg.2

namespace Spaced

protected theorem shedFirst {segs : List Segment} (spaced : Spaced segs) :
    Spaced (shedFirst endsInOr segs) := by
  cases segs with
  | nil => exact .nil
  | cons seg more =>
    rw [Query.shedFirst]
    split
    · exact spaced.tail
    · exact spaced

protected theorem shedLast {segs : List Segment} (spaced : Spaced segs) :
    Spaced (shedLast endsInOr segs) := by
  rw [Query.shedLast]
  split
  · rcases List.eq_nil_or_concat segs with rfl | ⟨init, seg, rfl⟩
    · exact spaced
    · rw [List.concat_eq_append] at spaced ⊢
      rw [List.dropLast_concat]
      exact spaced.init
  · exact spaced

theorem dropLeadingOr_joined {segs : List Segment} (spaced : Spaced segs) :
    dropLeadingOr (joined (flush segs)) = joined (flush (shedFirst endsInOr segs)) := by
  cases segs with
  | nil => rfl
  | cons seg more =>
    obtain ⟨nonempty, solid⟩ := spaced.word seg (by simp)
    have text : joined (flush (seg :: more)) = seg.2 ++ joined more := by simp [flush]
    have first : (seg.2 ++ joined more).takeWhile (fun c => !isBlank c) = seg.2 := by
      rw [List.takeWhile_append_of_pos fun c hc => by simp [solid c hc]]
      have blank := spaced.head_blank
      cases htail : joined more with
      | nil => simp
      | cons c rest => simp [blank c (by simp [htail])]
    rw [text, dropLeadingOr, first, Query.shedFirst, endsInOr]
    split
    · rw [List.drop_left, spaced.tail.dropLeading_joined]
    · exact text.symm

/-- The last word of a text is what follows its last blank. -/
theorem last_word {before word : List Char} (solid : ∀ c ∈ word, isBlank c = false)
    (hbefore : ∀ c ∈ before.getLast?, isBlank c = true) :
    ((before ++ word).reverse.takeWhile fun c => !isBlank c).reverse = word := by
  have stop : before.reverse.takeWhile (fun c => !isBlank c) = [] := by
    cases hrev : before.reverse with
    | nil => rfl
    | cons c rest =>
      have hlast : before.getLast? = some c := by
        rw [← List.head?_reverse, hrev, List.head?_cons]
      simp [hbefore c hlast]
  rw [List.reverse_append,
    List.takeWhile_append_of_pos fun c hc => by simp [solid c (List.mem_reverse.1 hc)], stop,
    List.append_nil, List.reverse_reverse]

theorem dropTrailingOr_joined {segs : List Segment} (spaced : Spaced segs) :
    dropTrailingOr (joined segs) = joined (shedLast endsInOr segs) := by
  rcases List.eq_nil_or_concat segs with rfl | ⟨init, seg, rfl⟩
  · rfl
  · rw [List.concat_eq_append] at spaced ⊢
    obtain ⟨nonempty, solid⟩ := spaced.word seg (by simp)
    have gap := spaced.gap seg (by simp)
    have text : joined (init ++ [seg]) = joined init ++ seg.1 ++ seg.2 := by simp
    have before : ∀ c ∈ (joined init ++ seg.1).getLast?, isBlank c = true := by
      intro c hc
      cases init with
      | nil => exact gap c (List.mem_of_getLast? (by simpa using hc))
      | cons first rest =>
        have apart : seg.1 ≠ [] := spaced.apart seg (by simp)
        rw [List.getLast?_append_of_ne_nil _ apart] at hc
        exact gap c (List.mem_of_getLast? hc)
    rw [text, dropTrailingOr, last_word solid before, Query.shedLast]
    simp only [List.getLast?_append, List.getLast?_singleton, Option.some_or, Option.any_some,
      List.dropLast_concat, endsInOr]
    split
    · rw [List.length_append, Nat.add_sub_cancel, List.take_left]
      exact dropTrailing_append_blanks spaced.init.last_solid gap
    · exact text.symm

end Spaced

/-- The segments that stay when the operators at both ends are dropped. -/
def kept (s : List Char) : List Segment :=
  shedLast endsInOr (flush (shedFirst endsInOr (segments s)))

theorem spaced_kept (s : List Char) : Spaced (kept s) :=
  (spaced_segments s).shedFirst.flush.shedLast

theorem flush_shedLast_flush (segs : List Segment) :
    flush (shedLast endsInOr (flush segs)) = shedLast endsInOr (flush segs) := by
  rcases segs with - | ⟨seg, - | ⟨next, more⟩⟩
  · rfl
  · by_cases operator : isOr seg.2 <;> simp [flush, shedLast, endsInOr, operator]
  · have tail : flush (seg :: next :: more) = [([], seg.2)] ++ next :: more := rfl
    rw [tail, shedLast_append _ _ (by simp)]
    rfl

theorem segments_trimOperators (s : List Char) : segments (trimOperators s) = kept s := by
  have spaced := (spaced_segments s).shedFirst
  have lead : dropLeadingOr (trimChars s) = joined (flush (shedFirst endsInOr (segments s))) := by
    rw [trimChars_eq_joined, (spaced_segments s).dropLeadingOr_joined]
  rw [trimOperators, lead, trimChars_eq_self spaced.trimmed_flush,
    spaced.flush.dropTrailingOr_joined, segments_trimChars,
    segments_joined spaced.flush.shedLast]
  exact flush_shedLast_flush _

/-- The word that has begun in front, apart from the finished ones. -/
def begun : List Segment → List Char × List (List Char)
  | ([], word) :: more => (word, more.map Prod.snd)
  | more => ([], more.map Prod.snd)

/-- Cutting a text into words forgets the blanks between its segments. -/
theorem words_eq_segments (s : List Char) : words s = (segments s).map Prod.snd := by
  have carried : s.foldr (runs.step isBlank) ([], []) = begun (segments s) := by
    induction s with
    | nil => rfl
    | cons c s ih =>
      rw [List.foldr_cons, ih]
      have spaced := spaced_segments s
      by_cases blank : isBlank c = true
      · rw [segments_blank blank]
        rcases split : segments s with - | ⟨⟨- | ⟨d, gap⟩, word⟩, more⟩
        · simp [runs.step, begun, blank, widen]
        · have nonempty := (spaced.word ([], word) (by simp [split])).1
          simp [runs.step, begun, blank, widen, nonempty]
        · simp [runs.step, begun, blank, widen]
      · rw [segments, if_neg blank]
        rcases segments s with - | ⟨⟨- | ⟨d, gap⟩, word⟩, more⟩ <;> simp [runs.step, begun, blank]
  rw [words, runs, carried]
  have spaced := spaced_segments s
  rcases split : segments s with - | ⟨⟨- | ⟨d, gap⟩, word⟩, more⟩
  · rfl
  · have nonempty := (spaced.word ([], word) (by simp [split])).1
    simp [begun, nonempty]
  · rfl

@[simp] theorem map_snd_flush (segs : List Segment) :
    (flush segs).map Prod.snd = segs.map Prod.snd := by
  cases segs <;> rfl

theorem words_joined {segs : List Segment} (spaced : Spaced segs) :
    words (joined segs) = segs.map Prod.snd := by
  rw [words_eq_segments, segments_joined spaced]

/-- A text that does not begin with a blank has a word. -/
theorem words_ne_nil {s : List Char} (nonempty : s ≠ [])
    (solid : ∀ c ∈ s.head?, isBlank c = false) : words s ≠ [] := by
  intro none
  obtain ⟨blanks, hblanks, text⟩ := eq_joined_segments s
  rw [words_eq_segments, List.map_eq_nil_iff] at none
  rw [none, joined_nil, List.nil_append] at text
  obtain ⟨c, rest, rfl⟩ := List.exists_cons_of_ne_nil nonempty
  have blank := hblanks c (by rw [← text]; simp)
  simp [solid c rfl] at blank

/-- The words that stay are those of the text without an operator at either end. -/
theorem map_snd_kept (s : List Char) :
    (kept s).map Prod.snd = shedLast isOr (shedFirst isOr (words s)) := by
  have last := map_shedLast isOr (Prod.snd : Segment → List Char)
    (flush (shedFirst endsInOr (segments s)))
  have first := map_shedFirst isOr (Prod.snd : Segment → List Char) (segments s)
  rw [kept, words_eq_segments, ← first, ← map_snd_flush (shedFirst _ _)]
  exact last

theorem words_trimChars (s : List Char) : words (trimChars s) = words s := by
  rw [words_eq_segments, segments_trimChars, map_snd_flush, words_eq_segments]

end CatalogSearch.Query
