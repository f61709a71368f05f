import CatalogSearch.Proofs.Index.Sound
import CatalogSearch.Proofs.Index.Writing

/-!
# Writing documents

What a client's write comes to. A round sorts its documents into those that were taken, those that
are postponed and those that are refused; the postponed ones are submitted again while that is
allowed. At the end each document was either taken or has one refusal, whatever faults struck an
earlier attempt at the same documents.
-/
namespace CatalogSearch.Index

open Memory (Submitted Tried)

variable {ω : Type} {sem : Semantics ω} {index : ω → Memory} {kept : ω → Prop}
  {store : Store.Memory} {faulty : Prop} {m m' m'' : Memory}

/-- A round as it is sorted when documents meet an index. -/
structure Round.Sorts (again : Bool) (documents : List Document) (m : Memory) (round : Round) :
    Prop where
  succeeded : round.succeeded = documents.countP fun d => m.takes 0 d.id
  throttled : round.throttled = documents.filter fun d => again && m.postpones d.id
  errors : round.errors.map (·.documentId) =
    (documents.filter fun d => !m.takes 0 d.id && !(again && m.postpones d.id)).map (·.id)

/-- Every outcome of a bulk request is sorted by what the index does with its document. -/
theorem sorts_tally (sound : m.Sound) (again : Bool) (documents : List Document) :
    Round.Sorts again documents m (tally again (documents.map fun d => (d, (m.write d).1))) := by
  induction documents with
  | nil => exact ⟨rfl, rfl, rfl⟩
  | cons d rest ih =>
    simp only [List.map_cons, tally]
    cases hrejected : Keyed.find? d.id m.rejected with
    | some error =>
      obtain ⟨hid, hstatus⟩ := sound.refusal_of_find? hrejected
      have htakes : m.takes 0 d.id = false := by simp [Memory.takes, hrejected]
      have hpostpones : m.postpones d.id = false := by simp [Memory.postpones, hrejected]
      have hfinal : ¬ ((again && decide (error.status = throttledStatus)) = true) := by
        simp [hstatus, throttledStatus]
      rw [Memory.write_of_rejected hrejected]
      dsimp only
      rw [if_neg hfinal]
      exact ⟨by simp [ih.succeeded, htakes], by simp [ih.throttled, hpostpones],
        by simp [ih.errors, htakes, hpostpones, hid]⟩
    | none =>
      by_cases hwaits : m.waits d.id = 0
      · have htakes : m.takes 0 d.id = true := Memory.takes_iff.2 ⟨hrejected, by omega⟩
        have hpostpones : m.postpones d.id = false := by simp [Memory.postpones, hwaits]
        rw [Memory.write_of_taken htakes]
        exact ⟨by simp [ih.succeeded, htakes], by simp [ih.throttled, hpostpones],
          by simp [ih.errors, htakes]⟩
      · have htakes : m.takes 0 d.id = false := by simp [Memory.takes, hwaits]
        have hpostpones : m.postpones d.id = true := by simp [Memory.postpones, hrejected, hwaits]
        rw [Memory.write_of_waiting hrejected hwaits]
        cases again with
        | true =>
          exact ⟨by simp [ih.succeeded, htakes, Memory.throttleError, throttledStatus],
            by simp [ih.throttled, hpostpones, Memory.throttleError, throttledStatus],
            by simp [ih.errors, htakes, hpostpones, Memory.throttleError, throttledStatus]⟩
        | false =>
          exact ⟨by simp [ih.succeeded, htakes], by simp [ih.throttled],
            by simp [ih.errors, htakes, Memory.throttleError]⟩

/-- Scenes with a sound index, on which a bulk request acts as on the index alone, or fails before
that or after it. Something is kept throughout. -/
structure Bulking (sem : Semantics ω) (index : ω → Memory) (faulty : Prop) (kept : ω → Prop) :
    Prop where
  sound : ∀ w, kept w → (index w).Sound
  log : ∀ entry w answer w', sem (.log entry) w answer w' → kept w → index w' = index w ∧ kept w'
  pause : ∀ span w answer w', sem (.pause span) w answer w' → kept w → index w' = index w ∧ kept w'
  bulk : ∀ documents w answer w', sem (.index (.bulk documents)) w answer w' → kept w → kept w' ∧
    ((answer = ((index w).answer (.bulk documents)).1 ∧
        index w' = ((index w).answer (.bulk documents)).2) ∨
      (faulty ∧ (∃ f, answer = .error f) ∧
        (index w' = index w ∨ index w' = ((index w).answer (.bulk documents)).2)))

theorem Bulking.idle (bulking : Bulking sem index faulty kept) (m : Memory) :
    Idle sem fun w => index w = m ∧ kept w where
  log entry w answer w' step h := by
    obtain ⟨same, hkept⟩ := bulking.log entry w answer w' step h.2
    exact ⟨same.trans h.1, hkept⟩
  pause span w answer w' step h := by
    obtain ⟨same, hkept⟩ := bulking.pause span w answer w' step h.2
    exact ⟨same.trans h.1, hkept⟩

/-- Jobs on a store and an index in memory. -/
theorem bulking_inMemory (events : List Progress) :
    Bulking (inMemory store faulty) Scene.index faulty
      fun w => w.events = events ∧ w.index.Sound where
  sound w h := h.2
  log entry w answer w' step h := by
    obtain rfl : w' = w := step
    exact ⟨rfl, h⟩
  pause span w answer w' step h := by
    obtain rfl : w' = w := step
    exact ⟨rfl, h⟩
  bulk documents w answer w' step h := by
    have sound := inMemory_sound (.index (.bulk documents)) w answer w' step h.2
    rcases step with ⟨hanswer, rfl⟩ | ⟨⟨hfaulty, f, hanswer, -⟩, rfl | rfl⟩
    · exact ⟨⟨h.1, sound⟩, .inl ⟨hanswer, rfl⟩⟩
    · exact ⟨⟨h.1, sound⟩, .inr ⟨hfaulty, ⟨f, hanswer⟩, .inl rfl⟩⟩
    · exact ⟨⟨h.1, sound⟩, .inr ⟨hfaulty, ⟨f, hanswer⟩, .inr rfl⟩⟩

/-- A request submits its documents once and sorts them; if it fails, they may or may not have been
submitted. -/
theorem Bulking.submit_ends (bulking : Bulking sem index faulty kept) {w : ω}
    {documents : List Document} (distinct : (documents.map (·.id)).Nodup) (hw : kept w)
    (again : Bool) :
    (Client.submit documents again).Ends sem w
      (fun round w' => round.Sorts again documents (index w) ∧
        Submitted 0 documents (index w) (index w') ∧ kept w')
      (fun _ w' => faulty ∧ Tried documents (index w) (index w') ∧ kept w') := by
  have hsubmitted : Submitted 0 documents (index w)
      (Memory.writeAll documents (index w).touch).2 :=
    (Memory.submitted_writeAll distinct (index w).touch).of_touch
  have hzip : documents.zip (Memory.writeAll documents (index w).touch).1 =
      documents.map fun d => (d, ((index w).write d).1) := by
    rw [Memory.writeAll_fst distinct, List.map_prod_left_eq_zip]
    refine congrArg (documents.zip) (List.map_congr_left fun d _ => ?_)
    rw [Memory.write_fst, Memory.write_fst]
    rfl
  have hlength : (Memory.writeAll documents (index w).touch).1.length = documents.length := by
    rw [Memory.writeAll_fst distinct, List.length_map]
  have called : (Task.index (.bulk documents)).Ends sem w
      (fun outcomes w' => outcomes = (Memory.writeAll documents (index w).touch).1 ∧
        index w' = (Memory.writeAll documents (index w).touch).2 ∧ kept w')
      (fun _ w' => faulty ∧ Tried documents (index w) (index w') ∧ kept w') := by
    intro answer w' step
    obtain ⟨hkept, ⟨rfl, same⟩ | ⟨hfaulty, ⟨f, rfl⟩, same | same⟩⟩ :=
      bulking.bulk documents w answer w' step hw
    · exact ⟨rfl, same, hkept⟩
    · exact ⟨hfaulty, same ▸ .refl documents (index w), hkept⟩
    · exact ⟨hfaulty, same ▸ hsubmitted.tried, hkept⟩
  unfold Client.submit
  refine called.bind ?_ fun _ _ h => h
  rintro _ w' ⟨rfl, same, hkept⟩
  rw [if_neg (Decidable.not_not.2 hlength), hzip]
  refine ((bulking.idle (index w')).logAllRejected_ends _ ⟨rfl, hkept⟩).always_bind ?_
  rintro _ w'' ⟨same', hkept''⟩
  exact ⟨sorts_tally (bulking.sound w hw) again documents, (same'.trans same) ▸ hsubmitted, hkept''⟩

/-- What documents come to that are submitted up to `again` more times: the number of those that are
taken and the refusals of the others. -/
structure Counts (again : Nat) (documents : List Document) (m : Memory) (succeeded : Nat)
    (errors : List ItemError) : Prop where
  succeeded : succeeded = documents.countP fun d => m.takes again d.id
  errors : (errors.map (·.documentId)).Perm
    ((documents.filter fun d => !m.takes again d.id).map (·.id))

/-- The documents refused in the first round and those refused later are the ones not taken. -/
theorem Counts.resubmit {again succeeded : Nat} {documents : List Document} {round : Round}
    {errors : List ItemError} (hround : round.Sorts true documents m)
    (hsubmitted : Submitted 0 documents m m')
    (hrest : Counts again (documents.filter fun d => m.postpones d.id) m' succeeded errors) :
    Counts (again + 1) documents m (round.succeeded + succeeded) (round.errors ++ errors) := by
  have hcongr : ∀ d ∈ documents.filter (fun d => m.postpones d.id),
      m'.takes again d.id = m.takes (again + 1) d.id := fun d hd =>
    hsubmitted.takes_again (List.mem_map_of_mem (List.mem_filter.1 hd).1) again
  have hnow (d : Document) :
      (m.takes (again + 1) d.id && !m.postpones d.id) = m.takes 0 d.id := by
    cases hpostpones : m.postpones d.id with
    | false => simp [Memory.takes_of_not_postponed hpostpones]
    | true => simp [Memory.takes_of_postponed hpostpones]
  have hnever (d : Document) :
      (!m.postpones d.id && !m.takes (again + 1) d.id) =
        (!m.takes 0 d.id && !(true && m.postpones d.id)) := by
    cases hpostpones : m.postpones d.id with
    | false => simp [Memory.takes_of_not_postponed hpostpones]
    | true => simp
  constructor
  · have hlater : succeeded =
        (documents.filter fun d => m.postpones d.id).countP fun d => m.takes (again + 1) d.id :=
      hrest.succeeded.trans (List.countP_congr fun d hd => by rw [hcongr d hd])
    rw [List.countP_eq_countP_filter_add documents _ fun d => m.postpones d.id, ← hlater,
      List.countP_filter, hround.succeeded, Nat.add_comm]
    simp only [hnow]
  · have hlater : (errors.map (·.documentId)).Perm
        ((documents.filter fun d => m.postpones d.id && !m.takes (again + 1) d.id).map (·.id)) := by
      refine hrest.errors.trans (.of_eq (congrArg (List.map _) ?_))
      rw [List.filter_congr fun d hd => by rw [hcongr d hd], List.filter_filter]
      exact List.filter_congr fun d _ => Bool.and_comm _ _
    have hsplit := (List.filter_append_perm (fun d : Document => m.postpones d.id)
      (documents.filter fun d => !m.takes (again + 1) d.id)).map (·.id)
    simp only [List.filter_filter, List.map_append, hnever] at hsplit
    rw [List.map_append, hround.errors]
    exact ((hlater.append_left _).trans List.perm_append_comm).trans hsplit

/-- After the last round, what is not taken is refused. -/
theorem Round.Sorts.counts {documents : List Document} {round : Round}
    (h : round.Sorts false documents m) :
    Counts 0 documents m round.succeeded round.errors where
  succeeded := h.succeeded
  errors := .of_eq (by simpa using h.errors)

theorem Counts.nil (again : Nat) (m : Memory) : Counts again [] m 0 [] := ⟨rfl, .nil⟩

/-- Submitting documents again and again takes those whose wait is short enough and leaves one
refusal of each other. -/
theorem Bulking.upsertRounds_ends (bulking : Bulking sem index faulty kept) (client : Client)
    (summary : BulkSummary) (again : Nat) {w : ω} {documents : List Document}
    (distinct : (documents.map (·.id)).Nodup) (hw : kept w) :
    (client.upsertRounds summary documents again).Ends sem w
      (fun total w' => ∃ succeeded errors, total = summary.add ⟨[], succeeded, errors⟩ ∧
        Counts again documents (index w) succeeded errors ∧
        Submitted again documents (index w) (index w') ∧ kept w')
      (fun _ w' => faulty ∧ Tried documents (index w) (index w') ∧ kept w') := by
  have hempty (s : BulkSummary) : s = s.add ⟨[], 0, []⟩ := by simp [BulkSummary.add]
  induction again generalizing summary documents w with
  | zero =>
    unfold Client.upsertRounds
    split
    · next hnone =>
      obtain rfl := List.isEmpty_iff.1 hnone
      exact ⟨0, [], hempty summary, .nil 0 (index w), .nil 0 (index w), hw⟩
    · refine (bulking.submit_ends distinct hw false).bind (fun round w' h => ?_) fun _ _ h => h
      obtain ⟨hround, hsubmitted, hkept⟩ := h
      exact ⟨round.succeeded, round.errors, rfl, hround.counts, hsubmitted, hkept⟩
  | succ again ih =>
    unfold Client.upsertRounds
    split
    · next hnone =>
      obtain rfl := List.isEmpty_iff.1 hnone
      exact ⟨0, [], hempty summary, .nil _ (index w), .nil _ (index w), hw⟩
    · refine (bulking.submit_ends distinct hw true).bind (fun round w' h => ?_) fun _ _ h => h
      obtain ⟨hround, hsubmitted, hkept⟩ := h
      have hthrottled : round.throttled = documents.filter fun d => (index w).postpones d.id := by
        simpa using hround.throttled
      dsimp only
      split
      · next hnone =>
        rw [hthrottled, List.isEmpty_iff] at hnone
        refine ⟨round.succeeded + 0, round.errors ++ [], by simp [BulkSummary.add],
          .resubmit hround hsubmitted ?_, hsubmitted.resubmit ?_, hkept⟩
        · rw [hnone]
          exact .nil again (index w')
        · rw [hnone]
          exact .nil again (index w')
      · refine ((bulking.idle (index w')).log_ends ⟨rfl, hkept⟩).always_bind fun _ w₁ h₁ => ?_
        refine ((bulking.idle (index w')).pause_ends h₁).always_bind fun _ w₂ h₂ => ?_
        obtain ⟨hsame, hkept₂⟩ := h₂
        rw [← hsame] at hsubmitted
        rw [hthrottled]
        have hdistinct : ((documents.filter fun d => (index w).postpones d.id).map (·.id)).Nodup :=
          distinct.sublist (List.filter_sublist.map Document.id)
        refine (ih (summary.add round) hdistinct hkept₂).mono ?_ ?_
        · intro total last h
          obtain ⟨succeeded, errors, rfl, hcounts, hrest, hlast⟩ := h
          exact ⟨round.succeeded + succeeded, round.errors ++ errors,
            by simp [BulkSummary.add, Nat.add_assoc], .resubmit hround hsubmitted hcounts,
            hsubmitted.resubmit hrest, hlast⟩
        · intro f last h
          obtain ⟨hfaulty, htried, hlast⟩ := h
          exact ⟨hfaulty, hsubmitted.tried.trans (htried.mono fun d hd => (List.mem_filter.1 hd).1),
            hlast⟩

/-- What writing documents with different ids leaves in an index: every document is there or is
refused once, and nothing else changes. Without faults, the refused documents are those that
the index does not take. -/
structure Wrote (faulty : Prop) (documents : List Document) (succeeded : Nat)
    (refused : List String) (m m' : Memory) : Prop where
  distinct : refused.Nodup
  known : ∀ id ∈ refused, id ∈ documents.map (·.id)
  total : succeeded + refused.length = documents.length
  taken : ∀ d ∈ documents, d.id ∉ refused → Keyed.find? d.id m'.documents = some d
  kept : ∀ key, (key ∈ documents.map (·.id) → key ∈ refused) →
    Keyed.find? key m'.documents = Keyed.find? key m.documents
  refused_iff : ¬ faulty → ∀ d ∈ documents,
    (d.id ∈ refused ↔ m.takes maxResubmissions d.id = false)
  waits : ∀ key ∉ documents.map (·.id), m'.waits key = m.waits key
  rejected : m'.rejected = m.rejected
  mapping : m.mapping.isSome = true → m'.mapping = m.mapping

theorem Wrote.nil (faulty : Prop) (m : Memory) : Wrote faulty [] 0 [] m m where
  distinct := .nil
  known := by simp
  total := rfl
  taken := by simp
  kept _ _ := rfl
  refused_iff := by simp
  waits _ _ := rfl
  rejected := rfl
  mapping _ := rfl

/-- Documents with different ids that are written in a row are written together. -/
theorem Wrote.append {a b : List Document} {succeeded succeeded' : Nat}
    {refused refused' : List String} (ha : Wrote faulty a succeeded refused m m')
    (hb : Wrote faulty b succeeded' refused' m' m'')
    (disjoint : ∀ key ∈ a.map (·.id), key ∉ b.map (·.id)) :
    Wrote faulty (a ++ b) (succeeded + succeeded') (refused ++ refused') m m'' := by
  have hout : ∀ key ∈ refused, key ∉ refused' := fun key h h' =>
    disjoint key (ha.known key h) (hb.known key h')
  constructor
  case distinct =>
    refine List.nodup_append.2 ⟨ha.distinct, hb.distinct, fun key h key' h' heq => ?_⟩
    exact hout key h (heq ▸ h')
  case known =>
    intro id hid
    rw [List.map_append]
    rcases List.mem_append.1 hid with hid | hid
    · exact List.mem_append_left _ (ha.known id hid)
    · exact List.mem_append_right _ (hb.known id hid)
  case total =>
    have htotal := ha.total
    have htotal' := hb.total
    simp only [List.length_append]
    omega
  case taken =>
    intro d hd hrefused
    rw [List.mem_append, not_or] at hrefused
    rcases List.mem_append.1 hd with hd | hd
    · rw [hb.kept d.id fun hin => absurd hin (disjoint d.id (List.mem_map_of_mem hd))]
      exact ha.taken d hd hrefused.1
    · exact hb.taken d hd hrefused.2
  case kept =>
    intro key hkey
    rw [List.map_append] at hkey
    have hafter : key ∈ b.map (·.id) → key ∈ refused' := fun hin =>
      (List.mem_append.1 (hkey (List.mem_append_right _ hin))).resolve_left fun h =>
        disjoint key (ha.known key h) hin
    have hbefore : key ∈ a.map (·.id) → key ∈ refused := fun hin =>
      (List.mem_append.1 (hkey (List.mem_append_left _ hin))).resolve_right fun h =>
        disjoint key hin (hb.known key h)
    rw [hb.kept key hafter, ha.kept key hbefore]
  case refused_iff =>
    intro hcalm d hd
    rw [List.mem_append]
    rcases List.mem_append.1 hd with hd | hd
    · rw [← ha.refused_iff hcalm d hd]
      refine or_iff_left fun h => ?_
      exact disjoint d.id (List.mem_map_of_mem hd) (hb.known d.id h)
    · have hnot : d.id ∉ a.map (·.id) := fun h => disjoint d.id h (List.mem_map_of_mem hd)
      rw [← Memory.takes_congr ha.rejected (ha.waits d.id hnot), ← hb.refused_iff hcalm d hd]
      exact or_iff_right fun h => hnot (ha.known d.id h)
  case waits =>
    intro key hkey
    rw [List.map_append, List.mem_append, not_or] at hkey
    rw [hb.waits key hkey.2, ha.waits key hkey.1]
  case rejected => exact hb.rejected.trans ha.rejected
  case mapping =>
    intro h
    exact (hb.mapping (by rw [ha.mapping h]; exact h)).trans (ha.mapping h)

/-- A single document that is written is there, or it is refused and nothing changes. -/
theorem Wrote.single {d : Document} {succeeded : Nat} {refused : List String}
    (wrote : Wrote False [d] succeeded refused m m') (sound : m.Sound) (sound' : m'.Sound) :
    (refused = [] ∧ m.takes maxResubmissions d.id = true ∧
      m'.documents = Keyed.insert d.id d m.documents) ∨
    (refused = [d.id] ∧ m.takes maxResubmissions d.id = false ∧ m'.documents = m.documents) := by
  have decided := wrote.refused_iff not_false d (.head _)
  cases refused with
  | nil =>
    refine .inl ⟨rfl, by simpa using decided, ?_⟩
    refine Keyed.eq_of_find?_eq sound'.ascending (Keyed.ascending_insert _ _ sound.ascending)
      fun key => ?_
    rw [Keyed.find?_insert]
    split
    · next same => exact same ▸ wrote.taken d (.head _) nofun
    · next other => exact wrote.kept _ (by simpa using Ne.symm other)
  | cons id rest =>
    have only : ∀ id' ∈ id :: rest, id' = d.id := by simpa using wrote.known
    obtain rfl : id = d.id := only id (.head _)
    have alone : rest = [] := by
      have counted := wrote.total
      simp only [List.length_cons, List.length_nil] at counted
      exact List.eq_nil_of_length_eq_zero (by omega)
    subst alone
    refine .inr ⟨rfl, decided.1 (.head _), ?_⟩
    exact Keyed.eq_of_find?_eq sound'.ascending sound.ascending fun key => wrote.kept key id

/-- Documents that were submitted up to three more times are written. -/
theorem Counts.wrote {documents : List Document} {succeeded : Nat} {errors : List ItemError}
    (distinct : (documents.map (·.id)).Nodup)
    (hcounts : Counts maxResubmissions documents m succeeded errors)
    (hsubmitted : Submitted maxResubmissions documents m m') :
    Wrote False documents succeeded (errors.map (·.documentId)) m m' := by
  have hmem (key : String) : key ∈ errors.map (·.documentId) ↔
      key ∈ documents.map (·.id) ∧ m.takes maxResubmissions key = false := by
    rw [hcounts.errors.mem_iff]
    simp only [List.mem_map, List.mem_filter, Bool.not_eq_true']
    constructor
    · rintro ⟨d, ⟨hd, htakes⟩, rfl⟩
      exact ⟨⟨d, hd, rfl⟩, htakes⟩
    · rintro ⟨⟨d, hd, rfl⟩, htakes⟩
      exact ⟨d, ⟨hd, htakes⟩, rfl⟩
  constructor
  case distinct =>
    exact hcounts.errors.nodup_iff.2 (distinct.sublist (List.filter_sublist.map Document.id))
  case known => exact fun id hid => ((hmem id).1 hid).1
  case total =>
    rw [hcounts.errors.length_eq, List.length_map, ← List.countP_eq_length_filter,
      hcounts.succeeded, List.length_eq_countP_add_countP fun d => m.takes maxResubmissions d.id]
    simp
  case taken =>
    intro d hd hrefused
    refine hsubmitted.taken d hd (Decidable.byContradiction fun htakes => hrefused ?_)
    exact (hmem d.id).2 ⟨List.mem_map_of_mem hd, Bool.not_eq_true _ ▸ htakes⟩
  case kept => exact fun key hkey => hsubmitted.kept key fun hin => ((hmem key).1 (hkey hin)).2
  case refused_iff =>
    intro _ d hd
    exact (hmem d.id).trans (and_iff_right (List.mem_map_of_mem hd))
  case waits => exact fun key hkey => hsubmitted.waits_of_not_mem hkey
  case rejected => exact hsubmitted.rejected
  case mapping => exact hsubmitted.mapping

/-- What is written without faults in the way is written. -/
theorem Wrote.weaken {documents : List Document} {succeeded : Nat} {refused : List String}
    (h : Wrote False documents succeeded refused m m') :
    Wrote faulty documents succeeded refused m m' :=
  { h with refused_iff := fun _ => h.refused_iff not_false }

/-- What was written after earlier attempts is written all the same: a document that is refused was
not written by any of them. -/
theorem Wrote.of_tried {documents : List Document} {succeeded : Nat} {refused : List String}
    (hfaulty : faulty) (htried : Tried documents m m')
    (h : Wrote False documents succeeded refused m' m'') :
    Wrote faulty documents succeeded refused m m'' where
  distinct := h.distinct
  known := h.known
  total := h.total
  taken := h.taken
  kept key hkey := by
    rw [h.kept key hkey]
    refine (htried.found key).resolve_right fun ⟨d, hd, hid, _, htakes⟩ => ?_
    subst hid
    have hrefused := (h.refused_iff not_false d hd).1 (hkey (List.mem_map_of_mem hd))
    rcases Memory.takes_eq_false_iff.1 hrefused with hrejected | hwaits
    · exact hrejected (Memory.takes_iff.1 htakes).1
    · have hzero := (Memory.takes_iff.1 htakes).2
      omega
  refused_iff hcalm := absurd hfaulty hcalm
  waits key hkey := (h.waits key hkey).trans (htried.waits_of_not_mem key hkey)
  rejected := h.rejected.trans htried.rejected
  mapping hm := (h.mapping (by rw [htried.mapping hm]; exact hm)).trans (htried.mapping hm)

/-- A client's write ends with its documents written, or in a fault. -/
theorem Bulking.upsertBatch_ends (bulking : Bulking sem index faulty kept) (client : Client)
    {w : ω} {documents : List Document} (distinct : (documents.map (·.id)).Nodup) (hw : kept w) :
    (client.upsertBatch documents).Ends sem w
      (fun total w' => total.failed = total.errors.length ∧
        Wrote False documents total.succeeded (total.errors.map (·.documentId)) (index w)
          (index w') ∧ kept w')
      (fun _ w' => faulty ∧ Tried documents (index w) (index w') ∧ kept w') := by
  refine (bulking.upsertRounds_ends client {} maxResubmissions distinct hw).mono ?_ fun _ _ h => h
  intro total w' h
  obtain ⟨succeeded, errors, rfl, hcounts, hsubmitted, hkept⟩ := h
  refine ⟨by simp [BulkSummary.add], ?_, hkept⟩
  simpa [BulkSummary.add] using hcounts.wrote distinct hsubmitted

/-- So does a write to an index in memory. -/
theorem Client.upsertBatch_ends (client : Client) {w : Scene} {documents : List Document}
    (distinct : (documents.map (·.id)).Nodup) (sound : w.index.Sound) :
    (client.upsertBatch documents).Ends (inMemory store faulty) w
      (fun total w' => total.failed = total.errors.length ∧
        Wrote False documents total.succeeded (total.errors.map (·.documentId)) w.index w'.index ∧
        w'.events = w.events)
      (fun _ w' => faulty ∧ Tried documents w.index w'.index ∧ w'.events = w.events) :=
  ((bulking_inMemory w.events).upsertBatch_ends client distinct ⟨rfl, sound⟩).mono
    (fun _ _ h => ⟨h.1, h.2.1, h.2.2.1⟩) fun _ _ h => ⟨h.1, h.2.1, h.2.2.1⟩

end CatalogSearch.Index
