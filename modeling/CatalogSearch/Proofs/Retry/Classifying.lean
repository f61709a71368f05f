import CatalogSearch.Retry
import Mathlib

/-!
# What may pass, under any wrapping

A failure comes to a classifier inside whatever was added on its way out: contexts, and the failures
of a page, which hold the failure of the page and also word it in their own text. Either classifier
looks at all the levels, so what is around a failure cannot hide a time-out, and cannot hide a
lost race.
-/
namespace CatalogSearch

/-- A failure and the failures in it, from the outermost inwards. -/
def Failure.causes : Failure → List Failure
  | .context text cause => .context text cause :: cause.causes
  | .pageFailed page source => .pageFailed page source :: source.causes
  | .retriesExhausted page attempts source =>
    .retriesExhausted page attempts source :: source.causes
  | f => [f]

/-- The first failure of the index on the way inwards, with nothing but other failures outside. -/
def Failure.FirstIndexError (f : Failure) (error : IndexError) : Prop :=
  ∃ outer inner, f.causes = outer ++ .index error :: inner ∧ ∀ e, Failure.index e ∉ outer

/-- What can be put around a failure. -/
inductive Wrapper where
  | context (text : String)
  | pageFailed (page : Nat)
  | retriesExhausted (page attempts : Nat)
  deriving DecidableEq, Repr

def Wrapper.around : Wrapper → Failure → Failure
  | .context text, f => .context text f
  | .pageFailed page, f => .pageFailed page f
  | .retriesExhausted page attempts, f => .retriesExhausted page attempts f

/-- The failure inside a number of wrappers, of which the first is the outermost. -/
def Failure.within (base : Failure) (wrappers : List Wrapper) : Failure :=
  wrappers.foldr Wrapper.around base

theorem Failure.within_append (base : Failure) (outer wrappers : List Wrapper) :
    base.within (outer ++ wrappers) = (base.within wrappers).within outer :=
  List.foldr_append

variable {f : Failure} {error : IndexError}

/-- Every cause is a level with its own text. -/
theorem Failure.levels_eq_causes (f : Failure) : f.levels = f.causes.map Failure.text := by
  induction f with
  | context text cause ih
  | pageFailed page source ih
  | retriesExhausted page attempts source ih => exact congrArg (List.cons _) ih
  | _ => rfl

@[simp]
theorem Wrapper.causes_around (w : Wrapper) (f : Failure) :
    (w.around f).causes = w.around f :: f.causes := by
  cases w <;> rfl

@[simp]
theorem Wrapper.indexError?_around (w : Wrapper) (f : Failure) :
    (w.around f).indexError? = f.indexError? := by
  cases w <;> rfl

theorem Wrapper.around_ne_index (w : Wrapper) (f : Failure) (e : IndexError) :
    w.around f ≠ .index e := by
  cases w <;> exact nofun

/-- A wrapper outside leaves the first failure of the index as it is. -/
theorem Wrapper.firstIndexError_around (w : Wrapper) :
    (w.around f).FirstIndexError error ↔ f.FirstIndexError error := by
  simp only [Failure.FirstIndexError, causes_around]
  constructor
  · rintro ⟨outer, inner, parts, others⟩
    cases outer with
    | nil => exact absurd (List.cons.inj parts).1 (w.around_ne_index f error)
    | cons first rest =>
      exact ⟨rest, inner, (List.cons.inj parts).2, fun e mem => others e (.tail _ mem)⟩
  · rintro ⟨outer, inner, parts, others⟩
    refine ⟨w.around f :: outer, inner, by rw [parts]; rfl, fun e mem => ?_⟩
    obtain same | mem := List.mem_cons.1 mem
    · exact w.around_ne_index f e same.symm
    · exact others e mem

/-- A failure that holds no other is the first failure of the index just if it is one. -/
theorem Failure.firstIndexError_of_causes (alone : f.causes = [f]) :
    f.FirstIndexError error ↔ f = .index error := by
  rw [FirstIndexError, alone]
  constructor
  · rintro ⟨outer, inner, parts, -⟩
    cases outer with
    | nil => exact (List.cons.inj parts).1
    | cons first rest => simp at parts
  · intro same
    exact ⟨[], [], by rw [same]; rfl, nofun⟩

/-- What a classifier looks for is the first failure of the index. -/
theorem Failure.indexError?_eq_some_iff :
    f.indexError? = some error ↔ f.FirstIndexError error := by
  induction f with
  | context text cause ih => exact ih.trans (Wrapper.context text).firstIndexError_around.symm
  | pageFailed page source ih =>
    exact ih.trans (Wrapper.pageFailed page).firstIndexError_around.symm
  | retriesExhausted page attempts source ih =>
    exact ih.trans (Wrapper.retriesExhausted page attempts).firstIndexError_around.symm
  | index e =>
    rw [firstIndexError_of_causes rfl, Failure.index.injEq]
    exact Option.some_inj
  | _ =>
    rw [firstIndexError_of_causes rfl]
    exact iff_of_false nofun nofun

namespace Retry

/-- The characters that stand for a small letter when case does not count. -/
inductive ReadsAs : Char → Char → Prop
  | small (c : Char) : ReadsAs c c
  | capital (c : Char) : ReadsAs c.toUpper c
  | longS : ReadsAs 'ſ' 's'
  | kelvinSign : ReadsAs (Char.ofNat 0x212A) 'k'

/-- A text holds a phrase, whatever the case of its letters. -/
def Mentions (phrase text : String) : Prop :=
  ∃ found, found <:+: text.toList ∧ List.Forall₂ ReadsAs found phrase.toList

/-- The letters of the markers are small already, and their capitals fold to them. -/
theorem foldChar_marker : ∀ marker ∈ conflictMarkers, ∀ m ∈ marker.toList,
    foldChar m = m ∧ foldChar m.toUpper = m := by
  simp [conflictMarkers, foldChar]

variable {marker : String}

/-- A character folds to a letter of a marker just if it stands for that letter. -/
theorem foldChar_eq_iff (known : marker ∈ conflictMarkers) {c m : Char} (mem : m ∈ marker.toList) :
    foldChar c = m ↔ ReadsAs c m := by
  constructor
  · rintro rfl
    unfold foldChar
    split
    · next long => exact long ▸ .longS
    split
    · next kelvin =>
      rw [← Char.ofNat_toNat c, kelvin]
      exact .kelvinSign
    -- Small letters are left alone, and a capital comes back from its small letter.
    by_cases large : c.isUpper
    · have back : c.toLower.toUpper = c := by
        rw [Char.toUpper_toLower_eq_toUpper, Char.toUpper_eq_of_not_isLower]
        grind [Char.isUpper, Char.isLower]
      have reads := ReadsAs.capital c.toLower
      rwa [back] at reads
    · rw [Char.toLower_eq_of_not_isUpper large]
      exact .small c
  · intro reads
    cases reads with
    | small => exact (foldChar_marker _ known _ mem).1
    | capital => exact (foldChar_marker _ known _ mem).2
    | longS => rfl
    | kelvinSign => decide

theorem containsRun_iff {pattern text : List Char} :
    Text.containsRun pattern text = true ↔ pattern <:+: text := by
  induction text with
  | nil => simp [Text.containsRun]
  | cons c rest ih => simp [Text.containsRun, ih, List.infix_cons_iff]

/-- A text folds to a marker just if its characters stand for those of the marker. -/
theorem map_foldChar_eq_iff (known : marker ∈ conflictMarkers) (found : List Char) :
    found.map foldChar = marker.toList ↔ List.Forall₂ ReadsAs found marker.toList := by
  -- The rest of a marker is no marker, so the induction keeps only what is known of its letters.
  have each : ∀ m ∈ marker.toList, ∀ c, foldChar c = m ↔ ReadsAs c m :=
    fun _ mem _ => foldChar_eq_iff known mem
  generalize marker.toList = letters at each
  induction letters generalizing found with
  | nil => simp
  | cons m rest ih =>
    rw [List.map_eq_cons_iff, List.forall₂_cons_right_iff]
    simp only [each m (.head _), ih _ fun m mem => each m (.tail _ mem)]
    constructor
    · rintro ⟨c, others, rfl, reads, following⟩
      exact ⟨c, others, reads, following, rfl⟩
    · rintro ⟨c, others, reads, following, rfl⟩
      exact ⟨c, others, rfl, reads, following⟩

/-- A marker is searched for in the folded text, and so found in any case. -/
theorem containsRun_fold_iff (known : marker ∈ conflictMarkers) {text : String} :
    Text.containsRun marker.toList (text.toList.map foldChar) = true ↔ Mentions marker text := by
  rw [containsRun_iff]
  constructor
  · rintro ⟨before, after, parts⟩
    obtain ⟨front, rest, whole, folded, -⟩ := List.map_eq_append_iff.1 parts.symm
    obtain ⟨skipped, found, rfl, -, same⟩ := List.map_eq_append_iff.1 folded
    exact ⟨found, ⟨skipped, rest, whole.symm⟩, (map_foldChar_eq_iff known found).1 same⟩
  · rintro ⟨found, inside, reads⟩
    exact (map_foldChar_eq_iff known found).2 reads ▸ inside.map foldChar

theorem mentionsConflict_iff {text : String} :
    mentionsConflict text = true ↔ ∃ marker ∈ conflictMarkers, Mentions marker text := by
  rw [mentionsConflict, List.any_eq_true]
  exact exists_congr fun marker => and_congr_right fun known => containsRun_fold_iff known

/-- Some level of the failure reads like a lost race. -/
theorem isSerializationConflict_iff {f : Failure} :
    isSerializationConflict f = true ↔
      ∃ level ∈ f.causes, ∃ marker ∈ conflictMarkers, Mentions marker level.text := by
  simp [isSerializationConflict, Failure.levels_eq_causes, mentionsConflict_iff]

variable {f : Failure}

theorem classifyTimeout_eq_retryable_iff :
    classifyTimeout f = .retryable ↔ ∃ detail, f.FirstIndexError (.timeout detail) := by
  simp only [← Failure.indexError?_eq_some_iff]
  unfold classifyTimeout
  split <;> simp_all

theorem classifySync_eq_retryable_iff :
    classifySync f = .retryable ↔
      (∃ detail, f.FirstIndexError (.timeout detail) ∨ f.FirstIndexError (.unavailable detail)) ∨
      ∃ level ∈ f.causes, ∃ marker ∈ conflictMarkers, Mentions marker level.text := by
  simp only [← Failure.indexError?_eq_some_iff, ← isSerializationConflict_iff]
  unfold classifySync
  split <;> simp_all

theorem classifyTimeout_around (w : Wrapper) :
    classifyTimeout (w.around f) = classifyTimeout f := by
  simp [classifyTimeout]

/-- What is put around a failure adds a level and takes none away. -/
theorem classifySync_around (w : Wrapper) (passes : classifySync f = .retryable) :
    classifySync (w.around f) = .retryable := by
  rw [classifySync_eq_retryable_iff] at passes ⊢
  simp only [w.firstIndexError_around, w.causes_around]
  refine passes.imp_right ?_
  rintro ⟨level, mem, reads⟩
  exact ⟨level, .tail _ mem, reads⟩

theorem classifyTimeout_within (f : Failure) (wrappers : List Wrapper) :
    classifyTimeout (f.within wrappers) = classifyTimeout f := by
  induction wrappers with
  | nil => rfl
  | cons outer inner ih => exact (classifyTimeout_around outer).trans ih

theorem classifySync_within (wrappers : List Wrapper) (passes : classifySync f = .retryable) :
    classifySync (f.within wrappers) = .retryable := by
  induction wrappers with
  | nil => exact passes
  | cons outer inner ih => exact classifySync_around outer ih

/-- However a failure is wrapped, it may pass for a call to the index if the first failure of the
index inwards is a time-out, and for a page if that is a time-out or want of service or the text of
some level reads like a lost race. More wrappers change nothing for the call, and do not make the
page give up. -/
theorem classified_within (base : Failure) (wrappers : List Wrapper) :
    (classifyTimeout (base.within wrappers) = .retryable ↔
      ∃ detail, (base.within wrappers).FirstIndexError (.timeout detail)) ∧
    (classifySync (base.within wrappers) = .retryable ↔
      (∃ detail, (base.within wrappers).FirstIndexError (.timeout detail) ∨
        (base.within wrappers).FirstIndexError (.unavailable detail)) ∨
      ∃ level ∈ (base.within wrappers).causes,
        ∃ marker ∈ ["could not serialize access", "conflict with recovery", "database is locked"],
          Mentions marker level.text) ∧
    (classifyTimeout (base.within wrappers) = .retryable →
      classifySync (base.within wrappers) = .retryable) ∧
    ∀ outer : List Wrapper,
      classifyTimeout (base.within (outer ++ wrappers)) = classifyTimeout (base.within wrappers) ∧
      (classifySync (base.within wrappers) = .retryable →
        classifySync (base.within (outer ++ wrappers)) = .retryable) := by
  refine ⟨classifyTimeout_eq_retryable_iff, classifySync_eq_retryable_iff, fun passes => ?_,
    fun outer => ?_⟩
  · obtain ⟨detail, first⟩ := classifyTimeout_eq_retryable_iff.1 passes
    exact classifySync_eq_retryable_iff.2 (.inl ⟨detail, .inl first⟩)
  · rw [Failure.within_append]
    exact ⟨classifyTimeout_within _ outer, classifySync_within outer⟩

end Retry
end CatalogSearch
