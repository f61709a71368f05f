import CatalogSearch.Text.Letters

/-!
# Maximal runs

Cutting a text at characters of one kind finds the runs of the others that cannot be made longer:
a run that stands between two cuts, or at an end of the text, is found, and runs that are put
together with a cut between any two are found again.
-/
namespace CatalogSearch.Text

/-- A run of characters of one kind that cannot be made longer where it stands in a text. -/
structure MaximalRun (p : Char → Bool) (word text : List Char) : Prop where
  nonempty : word ≠ []
  kind : ∀ c ∈ word, p c = true
  place : ∃ before after, text = before ++ word ++ after ∧
    (∀ c ∈ before.getLast?, p c = false) ∧ ∀ c ∈ after.head?, p c = false

variable {cut : Char → Bool}

/-- What has been closed stays behind what comes before it. -/
theorem foldr_step (s : List Char) (done : List (List Char)) :
    s.foldr (runs.step cut) ([], done) =
      ((s.foldr (runs.step cut) ([], [])).1, (s.foldr (runs.step cut) ([], [])).2 ++ done) := by
  induction s with
  | nil => rfl
  | cons c s ih =>
    rw [List.foldr_cons, List.foldr_cons, ih]
    simp only [runs.step]
    split
    · split <;> simp
    · rfl

/-- A cut closes the run before it. -/
theorem runs_cut {c : Char} (h : cut c = true) (s t : List Char) :
    runs cut (s ++ c :: t) = runs cut s ++ runs cut t := by
  have closed : (c :: t).foldr (runs.step cut) ([], []) = ([], runs cut t) := by
    rw [List.foldr_cons, runs.step, if_pos h]
    rfl
  unfold runs at closed ⊢
  rw [List.foldr_append, closed, foldr_step]
  dsimp only
  split <;> simp

/-- A text without a cut is one run. -/
theorem runs_solid {word : List Char} (nonempty : word ≠ []) (solid : ∀ c ∈ word, cut c = false) :
    runs cut word = [word] := by
  have grown : word.foldr (runs.step cut) ([], []) = (word, []) := by
    clear nonempty
    induction word with
    | nil => rfl
    | cons c word ih =>
      rw [List.foldr_cons, ih fun d hd => solid d (List.mem_cons_of_mem c hd), runs.step,
        if_neg (by simp [solid c])]
  simp [runs, grown, nonempty]

/-- A run that cannot be made longer is found. -/
theorem MaximalRun.mem_runs {p : Char → Bool} {word text : List Char}
    (h : MaximalRun p word text) : word ∈ runs (fun c => !p c) text := by
  have here : runs (fun c => !p c) word = [word] :=
    runs_solid h.nonempty fun c hc => by simp [h.kind c hc]
  obtain ⟨before, after, rfl, hbefore, hafter⟩ := h.place
  have behind : word ∈ runs (fun c => !p c) (word ++ after) := by
    cases after with
    | nil => simp [here]
    | cons c after =>
      have first : p c = false := hafter c rfl
      rw [runs_cut (by simp [first]), here]
      exact List.mem_cons_self
  rw [List.append_assoc]
  rcases List.eq_nil_or_concat before with rfl | ⟨init, c, rfl⟩
  · exact behind
  · have last : p c = false := hbefore c (by simp)
    rw [List.concat_eq_append, List.append_assoc, List.singleton_append,
      runs_cut (by simp [last])]
    exact List.mem_append_right _ behind

/-- Runs put together with one cut between any two are found again. -/
theorem runs_intercalate {c : Char} (h : cut c = true) {texts : List (List Char)}
    (solid : ∀ text ∈ texts, text ≠ [] ∧ ∀ c ∈ text, cut c = false) :
    runs cut ([c].intercalate texts) = texts := by
  induction texts with
  | nil => rfl
  | cons text more ih =>
    have first := solid text (by simp)
    cases more with
    | nil => rw [List.intercalate_singleton, runs_solid first.1 first.2]
    | cons next more =>
      rw [List.intercalate_cons_cons, List.append_assoc, List.singleton_append, runs_cut h,
        runs_solid first.1 first.2, ih fun text ht => solid text (List.mem_cons_of_mem _ ht)]
      rfl

/-- Texts put together keep their runs apart if one of them has a cut where they meet. -/
theorem runs_append {s t : List Char}
    (apart : (∀ c ∈ s.getLast?, cut c = true) ∨ ∀ c ∈ t.head?, cut c = true) :
    runs cut (s ++ t) = runs cut s ++ runs cut t := by
  have none : runs cut [] = [] := rfl
  obtain last | first := apart
  · rcases List.eq_nil_or_concat s with rfl | ⟨init, c, rfl⟩
    · rfl
    · have closed : cut c = true := last c (by simp)
      rw [List.concat_eq_append, List.append_assoc, List.singleton_append, runs_cut closed,
        runs_cut closed, none, List.append_nil]
  · cases t with
    | nil => rw [none, List.append_nil, List.append_nil]
    | cons c t =>
      have closed : cut c = true := first c rfl
      have alone := runs_cut closed [] t
      rw [runs_cut closed, ← List.nil_append (c :: t), alone, none, List.nil_append]

/-- A text without a cut, or one that goes on behind its first cut. -/
theorem cut_induction {motive : List Char → Prop} (cut : Char → Bool)
    (solid : ∀ s, (∀ c ∈ s, cut c = false) → motive s)
    (next : ∀ s c t, (∀ d ∈ s, cut d = false) → cut c = true → motive t → motive (s ++ c :: t))
    (text : List Char) : motive text := by
  have behind (before : List Char) (free : ∀ c ∈ before, cut c = false) :
      motive (before ++ text) := by
    induction text generalizing before with
    | nil => exact solid _ (by simpa using free)
    | cons c text ih =>
      by_cases closed : cut c = true
      · exact next before c text free closed (ih [] (by simp))
      · have solid : cut c = false := by simpa using closed
        have longer := ih (before ++ [c]) (by simpa [or_imp, forall_and] using ⟨free, solid⟩)
        simpa using longer
  exact behind [] (by simp)

/-- A text begins with a run, which may be empty. -/
theorem exists_first_run (p : Char → Bool) (s : List Char) :
    ∃ run rest, s = run ++ rest ∧ (∀ c ∈ run, p c = true) ∧ ∀ c ∈ rest.head?, p c = false := by
  induction s with
  | nil => exact ⟨[], [], rfl, by simp, by simp⟩
  | cons c s ih =>
    cases kind : p c with
    | false => exact ⟨[], c :: s, rfl, by simp, by simpa using kind⟩
    | true =>
      obtain ⟨run, rest, rfl, all, stop⟩ := ih
      exact ⟨c :: run, rest, rfl, by simpa [kind] using all, stop⟩

/-- A text ends with a run, which may be empty. -/
theorem exists_last_run (p : Char → Bool) (s : List Char) :
    ∃ rest run, s = rest ++ run ∧ (∀ c ∈ run, p c = true) ∧ ∀ c ∈ rest.getLast?, p c = false := by
  obtain ⟨run, rest, text, all, stop⟩ := exists_first_run p s.reverse
  refine ⟨rest.reverse, run.reverse, ?_, by simpa using all, by simpa using stop⟩
  rw [← List.reverse_append, ← text, List.reverse_reverse]

theorem runs_congr {other : Char → Bool} {s : List Char} (same : ∀ c ∈ s, cut c = other c) :
    runs cut s = runs other s := by
  have carried : s.foldr (runs.step cut) ([], []) = s.foldr (runs.step other) ([], []) := by
    induction s with
    | nil => rfl
    | cons c s ih =>
      rw [List.foldr_cons, List.foldr_cons, ih fun d hd => same d (List.mem_cons_of_mem c hd),
        runs.step, runs.step, same c List.mem_cons_self]
  rw [runs, runs, carried]

/-- The runs are those that cannot be made longer. -/
theorem mem_runs_iff {p : Char → Bool} {word text : List Char} :
    word ∈ runs (fun c => !p c) text ↔ MaximalRun p word text := by
  refine ⟨fun mem => ?_, MaximalRun.mem_runs⟩
  have single (s : List Char) (free : ∀ c ∈ s, (!p c) = false)
      (hs : word ∈ runs (fun c => !p c) s) : word = s ∧ word ≠ [] := by
    by_cases empty : s = []
    · rw [empty] at hs
      exact absurd hs List.not_mem_nil
    · rw [runs_solid empty free, List.mem_singleton] at hs
      exact ⟨hs, hs ▸ empty⟩
  induction text using cut_induction (fun c => !p c) with
  | solid s free =>
    obtain ⟨rfl, nonempty⟩ := single s free mem
    exact ⟨nonempty, by simpa using free, [], [], by simp, by simp, by simp⟩
  | next s c t free closed ih =>
    rw [runs_cut closed, List.mem_append] at mem
    have last : p c = false := by simpa using closed
    obtain here | later := mem
    · obtain ⟨rfl, nonempty⟩ := single s free here
      exact ⟨nonempty, by simpa using free, [], c :: t, by simp, by simp, by simpa using last⟩
    · obtain ⟨nonempty, kind, before, after, rfl, hbefore, hafter⟩ := ih later
      refine ⟨nonempty, kind, s ++ c :: before, after, by simp, ?_, hafter⟩
      intro d hd
      rw [List.getLast?_append, List.getLast?_cons, Option.some_or] at hd
      cases hlast : before.getLast? with
      | none =>
        obtain rfl : c = d := by simpa [hlast] using hd
        exact last
      | some e =>
        obtain rfl : e = d := by simpa [hlast] using hd
        exact hbefore e hlast

/-- Cutting at two kinds of characters is cutting at one and then at the other. -/
theorem runs_or (p q : Char → Bool) (text : List Char) :
    runs (fun c => p c || q c) text = (runs p text).flatMap (runs q) := by
  have once (s : List Char) (free : ∀ c ∈ s, p c = false) :
      runs (fun c => p c || q c) s = (runs p s).flatMap (runs q) := by
    by_cases empty : s = []
    · subst empty
      rfl
    · rw [runs_solid empty free, List.flatMap_singleton]
      exact runs_congr fun c hc => by simp [free c hc]
  induction text using cut_induction p with
  | solid s free => exact once s free
  | next s c t free closed ih =>
    rw [runs_cut (by simp [closed]), runs_cut closed, List.flatMap_append, ← ih, ← once s free]

def blankCodes : List Nat :=
  [9, 10, 11, 12, 13, 32, 0x85, 0xA0, 0x1680, 0x2000, 0x2001, 0x2002, 0x2003, 0x2004, 0x2005,
    0x2006, 0x2007, 0x2008, 0x2009, 0x200A, 0x2028, 0x2029, 0x202F, 0x205F, 0x3000]

theorem mem_blankCodes {c : Char} (h : isBlank c = true) : c.toNat ∈ blankCodes := by
  simp [isBlank] at h
  simp only [blankCodes, List.mem_cons, List.not_mem_nil, or_false]
  omega

theorem isBlank_of_isAlphanumeric {c : Char} (h : isAlphanumeric c = true) : isBlank c = false := by
  have none : ∀ n ∈ blankCodes, isAlphanumeric (Char.ofNat n) = false := by decide +kernel
  cases hblank : isBlank c with
  | false => rfl
  | true =>
    have := none c.toNat (mem_blankCodes hblank)
    rw [Char.ofNat_toNat, h] at this
    cases this

end CatalogSearch.Text
