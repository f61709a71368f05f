import CatalogSearch.Index.Memory
import CatalogSearch.Keyed.Lookup

/-!
# Writing to an index in memory

What one bulk request does, seen through lookups: a document is taken unless it is rejected or has
to wait, and every submission of a waiting document shortens its wait by one. Submitting the
documents that were turned away again and again takes those whose wait is short enough. An attempt
of which no more is known than that it was made has written only documents that will be taken
whenever they are submitted again.
-/
namespace CatalogSearch.Index.Memory

/-- How often a document will still be turned away. -/
def waits (m : Memory) (id : String) : Nat := (Keyed.find? id m.throttled).getD 0

/-- Is a document taken if it is submitted again up to so many times? -/
def takes (m : Memory) (again : Nat) (id : String) : Bool :=
  (Keyed.find? id m.rejected).isNone && decide (m.waits id ≤ again)

theorem takes_iff {m : Memory} {again : Nat} {id : String} :
    m.takes again id = true ↔ Keyed.find? id m.rejected = none ∧ m.waits id ≤ again := by
  simp [takes]

theorem takes_eq_false_iff {m : Memory} {again : Nat} {id : String} :
    m.takes again id = false ↔ Keyed.find? id m.rejected ≠ none ∨ again < m.waits id := by
  rw [← Bool.not_eq_true, takes_iff, Decidable.not_and_iff_or_not, Nat.not_le]

/-- Only refusals and waits decide what is taken. -/
theorem takes_congr {m m' : Memory} {id : String} (hrejected : m'.rejected = m.rejected)
    (hwaits : m'.waits id = m.waits id) (again : Nat) : m'.takes again id = m.takes again id := by
  rw [takes, takes, hrejected, hwaits]

theorem write_of_rejected {m : Memory} {d : Document} {error : ItemError}
    (h : Keyed.find? d.id m.rejected = some error) : m.write d = (.failed error, m) := by
  simp only [write, h]

theorem write_of_waiting {m : Memory} {d : Document} (h : Keyed.find? d.id m.rejected = none)
    (hwaits : m.waits d.id ≠ 0) :
    m.write d = (.failed (throttleError d.id),
      { m with throttled := Keyed.insert d.id (m.waits d.id - 1) m.throttled }) := by
  unfold waits at hwaits ⊢
  unfold write
  split
  · next hrejected => simp [h] at hrejected
  · split
    · next times hthrottled => simp [hthrottled]
    · next hthrottled =>
      refine absurd ?_ hwaits
      cases hfound : Keyed.find? d.id m.throttled with
      | none => rfl
      | some times =>
        cases times with
        | zero => rfl
        | succ n => exact absurd hfound (hthrottled n)

theorem write_of_taken {m : Memory} {d : Document} (h : m.takes 0 d.id = true) :
    m.write d = (.indexed, { m with documents := Keyed.insert d.id d m.documents }) := by
  obtain ⟨hrejected, hwaits⟩ := takes_iff.1 h
  unfold waits at hwaits
  unfold write
  split
  · next hfound => simp [hrejected] at hfound
  · split
    · next hthrottled => simp [hthrottled] at hwaits
    · rfl

/-- What becomes of a document is decided by its own refusal and wait. -/
theorem write_fst (m : Memory) (d : Document) :
    (m.write d).1 = match Keyed.find? d.id m.rejected with
      | some error => .failed error
      | none => if m.waits d.id = 0 then .indexed else .failed (throttleError d.id) := by
  cases hrejected : Keyed.find? d.id m.rejected with
  | some error => rw [write_of_rejected hrejected]
  | none =>
    by_cases hwaits : m.waits d.id = 0
    · rw [write_of_taken (takes_iff.2 ⟨hrejected, by omega⟩)]
      simp [hwaits]
    · rw [write_of_waiting hrejected hwaits]
      simp [hwaits]

/-- What is known of an index after documents have been submitted once, and those turned away up
to `again` more times. -/
structure Submitted (again : Nat) (documents : List Document) (m m' : Memory) : Prop where
  taken : ∀ d ∈ documents, m.takes again d.id = true → Keyed.find? d.id m'.documents = some d
  kept : ∀ key, (key ∈ documents.map (·.id) → m.takes again key = false) →
    Keyed.find? key m'.documents = Keyed.find? key m.documents
  waits_of_mem : ∀ key ∈ documents.map (·.id), Keyed.find? key m.rejected = none →
    m'.waits key = m.waits key - (again + 1)
  waits_kept : ∀ key, (key ∈ documents.map (·.id) → Keyed.find? key m.rejected ≠ none) →
    m'.waits key = m.waits key
  rejected : m'.rejected = m.rejected
  mapping : m.mapping.isSome = true → m'.mapping = m.mapping

variable {m m' m'' : Memory}

theorem Submitted.waits_of_not_mem {again : Nat} {documents : List Document}
    (h : Submitted again documents m m') {key : String} (hkey : key ∉ documents.map (·.id)) :
    m'.waits key = m.waits key :=
  h.waits_kept key fun hin => absurd hin hkey

theorem Submitted.nil (again : Nat) (m : Memory) : Submitted again [] m m where
  taken := by simp
  kept _ _ := rfl
  waits_of_mem := by simp
  waits_kept _ _ := rfl
  rejected := rfl
  mapping _ := rfl

theorem submitted_write (d : Document) (m : Memory) : Submitted 0 [d] m (m.write d).2 := by
  cases hrejected : Keyed.find? d.id m.rejected with
  | some error =>
    rw [write_of_rejected hrejected]
    refine ⟨?_, fun _ _ => rfl, ?_, fun _ _ => rfl, rfl, fun _ => rfl⟩
    · simp [takes, hrejected]
    · simp [hrejected]
  | none =>
    by_cases hwaits : m.waits d.id = 0
    · have htakes : m.takes 0 d.id = true := takes_iff.2 ⟨hrejected, by omega⟩
      rw [write_of_taken htakes]
      refine ⟨by simp, fun key hkey => ?_, ?_, fun _ _ => rfl, rfl, fun _ => rfl⟩
      · refine Keyed.find?_insert_of_ne (fun heq => ?_) d m.documents
        simp [heq, htakes] at hkey
      · have hsame : Memory.waits { m with documents := Keyed.insert d.id d m.documents } d.id =
          m.waits d.id := rfl
        simp [hsame, hwaits]
    · rw [write_of_waiting hrejected hwaits]
      refine ⟨by simp [takes, hwaits], fun _ _ => rfl, ?_, fun key hkey => ?_, rfl, fun _ => rfl⟩
      · simp [waits]
      · have hne : key ≠ d.id := fun heq => by simp [heq, hrejected] at hkey
        simp [waits, Keyed.find?_insert_of_ne hne]

/-- Documents with different ids do not get in each other's way. -/
theorem Submitted.append {again : Nat} {a b : List Document} (ha : Submitted again a m m')
    (hb : Submitted again b m' m'') (disjoint : ∀ key ∈ a.map (·.id), key ∉ b.map (·.id)) :
    Submitted again (a ++ b) m m'' where
  taken d hd htakes := by
    rcases List.mem_append.1 hd with hd | hd
    · have hout := disjoint d.id (List.mem_map_of_mem hd)
      rw [hb.kept d.id fun hin => absurd hin hout]
      exact ha.taken d hd htakes
    · have hin : d.id ∈ b.map (·.id) := List.mem_map_of_mem hd
      have hout : d.id ∉ a.map (·.id) := fun h => disjoint d.id h hin
      exact hb.taken d hd ((takes_congr ha.rejected (ha.waits_of_not_mem hout) again).trans htakes)
  kept key hkey := by
    rw [List.map_append] at hkey
    rw [hb.kept key fun hin => ?_, ha.kept key fun hin => hkey (List.mem_append_left _ hin)]
    have hout : key ∉ a.map (·.id) := fun h => disjoint key h hin
    rw [takes_congr ha.rejected (ha.waits_of_not_mem hout)]
    exact hkey (List.mem_append_right _ hin)
  waits_of_mem key hkey hrejected := by
    rw [List.map_append] at hkey
    rcases List.mem_append.1 hkey with hin | hin
    · rw [hb.waits_of_not_mem (disjoint key hin), ha.waits_of_mem key hin hrejected]
    · have hout : key ∉ a.map (·.id) := fun h => disjoint key h hin
      rw [hb.waits_of_mem key hin (by rw [ha.rejected]; exact hrejected),
        ha.waits_of_not_mem hout]
  waits_kept key hkey := by
    rw [List.map_append] at hkey
    rw [hb.waits_kept key fun hin => ?_,
      ha.waits_kept key fun hin => hkey (List.mem_append_left _ hin)]
    rw [ha.rejected]
    exact hkey (List.mem_append_right _ hin)
  rejected := hb.rejected.trans ha.rejected
  mapping h := (hb.mapping (by rw [ha.mapping h]; exact h)).trans (ha.mapping h)

/-- One bulk request submits its documents once. -/
theorem submitted_writeAll {documents : List Document} (distinct : (documents.map (·.id)).Nodup)
    (m : Memory) : Submitted 0 documents m (writeAll documents m).2 := by
  induction documents generalizing m with
  | nil => exact .nil 0 m
  | cons d rest ih =>
    obtain ⟨hhead, hrest⟩ := List.nodup_cons.1 distinct
    exact (submitted_write d m).append (ih hrest (m.write d).2) (by simpa using hhead)

/-- What becomes of the documents of a request is what would become of each on its own. -/
theorem writeAll_fst {documents : List Document} (distinct : (documents.map (·.id)).Nodup)
    (m : Memory) : (writeAll documents m).1 = documents.map fun d => (m.write d).1 := by
  induction documents generalizing m with
  | nil => rfl
  | cons d rest ih =>
    obtain ⟨hhead, hrest⟩ := List.nodup_cons.1 distinct
    have hfirst := submitted_write d m
    refine congrArg ((m.write d).1 :: ·) ((ih hrest (m.write d).2).trans ?_)
    refine List.map_congr_left fun e he => ?_
    have hout : e.id ∉ [d].map (·.id) := fun hin => hhead (by
      rw [← List.eq_of_mem_singleton hin]
      exact List.mem_map_of_mem he)
    rw [write_fst, write_fst, hfirst.rejected, hfirst.waits_of_not_mem hout]

/-- Creating the index on the way changes nothing that a submission sees. -/
theorem Submitted.of_touch {again : Nat} {documents : List Document}
    (h : Submitted again documents m.touch m') : Submitted again documents m m' where
  taken := h.taken
  kept := h.kept
  waits_of_mem := h.waits_of_mem
  waits_kept := h.waits_kept
  rejected := h.rejected
  mapping hm := by
    have htouch : m.touch.mapping = m.mapping := by
      obtain ⟨mapping, hmapping⟩ := Option.isSome_iff_exists.1 hm
      rw [touch, hmapping]
      rfl
    rw [h.mapping (by rw [htouch]; exact hm), htouch]

/-- Is a document turned away for now, and only for now? -/
def postpones (m : Memory) (id : String) : Bool :=
  (Keyed.find? id m.rejected).isNone && decide (m.waits id ≠ 0)

/-- Only documents that are not rejected and have to wait are postponed. -/
theorem postpones_iff {m : Memory} {id : String} :
    m.postpones id = true ↔ Keyed.find? id m.rejected = none ∧ m.waits id ≠ 0 := by
  simp [postpones]

/-- Of what need not wait, more submissions take no more. -/
theorem takes_of_not_postponed {m : Memory} {id : String} (h : m.postpones id = false)
    (again : Nat) : m.takes again id = m.takes 0 id := by
  rw [Bool.eq_iff_iff, takes_iff, takes_iff]
  refine and_congr_right fun hrejected => ?_
  have hwaits : m.waits id = 0 := by simpa [postpones, hrejected] using h
  omega

/-- What has to wait is not taken at once. -/
theorem takes_of_postponed {m : Memory} {id : String} (h : m.postpones id = true) :
    m.takes 0 id = false := by
  obtain ⟨-, hwaits⟩ := postpones_iff.1 h
  exact takes_eq_false_iff.2 (.inr (by omega))

/-- After a submission, one fewer is needed. -/
theorem Submitted.takes_again {documents : List Document} (h : Submitted 0 documents m m')
    {key : String} (hkey : key ∈ documents.map (·.id)) (again : Nat) :
    m'.takes again key = m.takes (again + 1) key := by
  rw [Bool.eq_iff_iff, takes_iff, takes_iff, h.rejected]
  refine and_congr_right fun hrejected => ?_
  rw [h.waits_of_mem key hkey hrejected]
  omega

/-- Submitting again what was turned away shortens every wait by one more. -/
theorem Submitted.resubmit {again : Nat} {documents : List Document}
    (hfirst : Submitted 0 documents m m')
    (hrest : Submitted again (documents.filter fun d => m.postpones d.id) m' m'') :
    Submitted (again + 1) documents m m'' := by
  have hmem (key : String) :
      key ∈ (documents.filter fun d => m.postpones d.id).map (·.id) ↔
        key ∈ documents.map (·.id) ∧ m.postpones key = true := by
    simp only [List.mem_map, List.mem_filter]
    constructor
    · rintro ⟨d, ⟨hd, hpostpones⟩, rfl⟩
      exact ⟨⟨d, hd, rfl⟩, hpostpones⟩
    · rintro ⟨⟨d, hd, rfl⟩, hpostpones⟩
      exact ⟨d, ⟨hd, hpostpones⟩, rfl⟩
  constructor
  case taken =>
    intro d hd htaken
    have hin : d.id ∈ documents.map (·.id) := List.mem_map_of_mem hd
    by_cases hpostpones : m.postpones d.id = true
    · refine hrest.taken d (List.mem_filter.2 ⟨hd, hpostpones⟩) ?_
      exact (hfirst.takes_again hin again).trans htaken
    · rw [hrest.kept d.id fun h => absurd ((hmem d.id).1 h).2 hpostpones]
      rw [takes_of_not_postponed (Bool.not_eq_true _ ▸ hpostpones)] at htaken
      exact hfirst.taken d hd htaken
  case kept =>
    intro key hkey
    rw [hrest.kept key fun h =>
      (hfirst.takes_again ((hmem key).1 h).1 again).trans (hkey ((hmem key).1 h).1)]
    refine hfirst.kept key fun hin => ?_
    rcases takes_eq_false_iff.1 (hkey hin) with hrejected | hwaits
    · exact takes_eq_false_iff.2 (.inl hrejected)
    · exact takes_eq_false_iff.2 (.inr (by omega))
  case waits_of_mem =>
    intro key hkey hrejected
    have hfirstWaits := hfirst.waits_of_mem key hkey hrejected
    by_cases hpostpones : m.postpones key = true
    · rw [hrest.waits_of_mem key ((hmem key).2 ⟨hkey, hpostpones⟩)
        (by rw [hfirst.rejected]; exact hrejected)]
      omega
    · have hnow : m.waits key = 0 := Decidable.byContradiction fun hne =>
        hpostpones (postpones_iff.2 ⟨hrejected, hne⟩)
      rw [hrest.waits_of_not_mem fun h => hpostpones ((hmem key).1 h).2]
      omega
  case waits_kept =>
    intro key hkey
    rw [hrest.waits_kept key fun h => ?_, hfirst.waits_kept key hkey]
    rw [hfirst.rejected]
    exact hkey ((hmem key).1 h).1
  case rejected => exact hrest.rejected.trans hfirst.rejected
  case mapping =>
    intro h
    exact (hrest.mapping (by rw [hfirst.mapping h]; exact h)).trans (hfirst.mapping h)

/-- What is known of an index after attempts to write documents of which some may have failed: any
document that was written is now taken at once. -/
structure Tried (documents : List Document) (m m' : Memory) : Prop where
  found : ∀ key, Keyed.find? key m'.documents = Keyed.find? key m.documents ∨
    ∃ d ∈ documents, d.id = key ∧ Keyed.find? key m'.documents = some d ∧
      m'.takes 0 key = true
  waits_le : ∀ key, m'.waits key ≤ m.waits key
  waits_of_not_mem : ∀ key ∉ documents.map (·.id), m'.waits key = m.waits key
  rejected : m'.rejected = m.rejected
  mapping : m.mapping.isSome = true → m'.mapping = m.mapping

theorem Tried.refl (documents : List Document) (m : Memory) : Tried documents m m where
  found _ := .inl rfl
  waits_le _ := Nat.le_refl _
  waits_of_not_mem _ _ := rfl
  rejected := rfl
  mapping _ := rfl

/-- What is taken at once stays so, whatever is tried. -/
theorem Tried.takes_zero {documents : List Document} (h : Tried documents m m') {key : String}
    (htakes : m.takes 0 key = true) : m'.takes 0 key = true := by
  obtain ⟨hrejected, hwaits⟩ := takes_iff.1 htakes
  exact takes_iff.2 ⟨by rw [h.rejected]; exact hrejected, Nat.le_trans (h.waits_le key) hwaits⟩

theorem Tried.trans {documents : List Document} (h : Tried documents m m')
    (h' : Tried documents m' m'') : Tried documents m m'' where
  found key := by
    rcases h'.found key with hsame | hwritten
    · rw [hsame]
      exact (h.found key).imp_right fun ⟨d, hd, hkey, hfound, htakes⟩ =>
        ⟨d, hd, hkey, hfound, h'.takes_zero htakes⟩
    · exact .inr hwritten
  waits_le key := Nat.le_trans (h'.waits_le key) (h.waits_le key)
  waits_of_not_mem key hkey := (h'.waits_of_not_mem key hkey).trans (h.waits_of_not_mem key hkey)
  rejected := h'.rejected.trans h.rejected
  mapping hm := (h'.mapping (by rw [h.mapping hm]; exact hm)).trans (h.mapping hm)

/-- Attempts at some of the documents are attempts at all of them. -/
theorem Tried.mono {some all : List Document} (hsub : ∀ d ∈ some, d ∈ all)
    (h : Tried some m m') : Tried all m m' where
  found key := (h.found key).imp_right fun ⟨d, hd, hrest⟩ => ⟨d, hsub d hd, hrest⟩
  waits_le := h.waits_le
  waits_of_not_mem key hkey := h.waits_of_not_mem key fun hin => by
    obtain ⟨d, hd, rfl⟩ := List.mem_map.1 hin
    exact hkey (List.mem_map_of_mem (hsub d hd))
  rejected := h.rejected
  mapping := h.mapping

/-- A single submission is an attempt. -/
theorem Submitted.tried {documents : List Document} (h : Submitted 0 documents m m') :
    Tried documents m m' where
  found key := by
    by_cases hin : key ∈ documents.map (·.id) ∧ m.takes 0 key = true
    · obtain ⟨hkey, htakes⟩ := hin
      obtain ⟨d, hd, rfl⟩ := List.mem_map.1 hkey
      obtain ⟨hrejected, hwaits⟩ := takes_iff.1 htakes
      refine .inr ⟨d, hd, rfl, h.taken d hd htakes,
        takes_iff.2 ⟨by rw [h.rejected]; exact hrejected, ?_⟩⟩
      rw [h.waits_of_mem d.id hkey hrejected]
      omega
    · exact .inl (h.kept key fun hkey => Bool.not_eq_true _ ▸ fun htakes => hin ⟨hkey, htakes⟩)
  waits_le key := by
    by_cases hin : key ∈ documents.map (·.id) ∧ Keyed.find? key m.rejected = none
    · rw [h.waits_of_mem key hin.1 hin.2]
      omega
    · exact Nat.le_of_eq (h.waits_kept key fun hkey hrejected => hin ⟨hkey, hrejected⟩)
  waits_of_not_mem _ hkey := h.waits_of_not_mem hkey
  rejected := h.rejected
  mapping := h.mapping

end CatalogSearch.Index.Memory
