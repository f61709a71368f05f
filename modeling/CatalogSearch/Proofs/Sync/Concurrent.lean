import CatalogSearch.Proofs.Drift.Listing
import CatalogSearch.Proofs.Repair.Keeping
import CatalogSearch.Proofs.Sync.Board

/-!
# Runs side by side

Any number of full syncs and repairs may work on one index at the same time, step by step in any
order. A full sync knows of every page that it has written that it is there, unless another run has
emptied the index since; so the run that was the last to empty it has written everything after that.
A repair deletes nothing that the store has. When all are done, the index is that of the store.
-/
namespace CatalogSearch.Sync

open Index (Client Memory)
open Board (Allowed Relies Valid sharing)

variable {store : Store.Memory} {runs i : Nat} {P : Board → Prop} {w : Option Board}

/-- What changes nothing on a board keeps what is stable. -/
theorem holds_of_unchanged (stable : (sharing store runs).Stable i P) (effect : Effect)
    (hallowed : Allowed store effect) (hsame : ∀ b, (Board.act store i effect b).2 = b)
    {w w' : Option Board} {answer : effect.Answer}
    (step : (sharing store runs).view i effect w answer w')
    (hw : (sharing store runs).Holds P w) :
    (sharing store runs).Holds P w' ∧ ∃ b, answer = (Board.act store i effect b).1 := by
  obtain ⟨b, hvalid, hb, hanswer, rfl⟩ := Sharing.view_step stable effect hallowed step hw
  exact ⟨⟨b, congrArg some (hsame b), hvalid, hb⟩, b, hanswer⟩

/-- Only requests to the index change a board. -/
theorem quiet_view (stable : (sharing store runs).Stable i P) :
    Quiet store False ((sharing store runs).view i) ((sharing store runs).Holds P) where
  log entry _ _ _ step hw :=
    (holds_of_unchanged stable (.log entry) trivial (fun _ => rfl) step hw).1
  pause span _ _ _ step hw :=
    (holds_of_unchanged stable (.pause span) trivial (fun _ => rfl) step hw).1
  report event _ _ _ step hw :=
    (holds_of_unchanged stable (.report event) trivial (fun _ => rfl) step hw).1
  store call _ _ _ step hw := by
    obtain ⟨hw', b, hanswer⟩ :=
      holds_of_unchanged stable (.store call) trivial (fun _ => rfl) step hw
    exact ⟨hw', .inl hanswer⟩

/-- A request that is answered on every valid board is answered. -/
theorem ends_answered (stable : (sharing store runs).Stable i P) (hi : i < runs)
    (call : Index.Call) (hallowed : Allowed store (.index call))
    (good : call.Answer → Board → Prop)
    (each : ∀ b, Valid store runs b → P b → ∃ value, (b.index.answer call).1 = .ok value ∧
      good value (Board.act store i (.index call) b).2)
    (hw : (sharing store runs).Holds P w) :
    (Task.index call).Ends ((sharing store runs).view i) w
      (fun a => (sharing store runs).Holds (good a))
      fun _ w' => False ∧ (sharing store runs).Holds P w' := by
  intro answer w' step
  obtain ⟨b, hvalid, hb, rfl, rfl⟩ := Sharing.view_step stable _ hallowed step hw
  obtain ⟨value, hvalue, hgood⟩ := each b hvalid hb
  have hanswer : ((sharing store runs).act i (.index call) b).1 = .ok value := hvalue
  rw [hanswer]
  exact ⟨_, rfl, hvalid.act hi hallowed, hgood⟩

/-- What is stable survives a run's own requests, unless they empty the index. -/
theorem stable_act (stable : (sharing store runs).Stable i P) (hi : i < runs) (call : Index.Call)
    (hallowed : Allowed store (.index call)) (hcall : call ≠ .deleteAll) {b : Board}
    (hvalid : Valid store runs b) (hb : P b) : P (Board.act store i (.index call) b).2 :=
  stable _ _ (hvalid.act hi hallowed) (.of_answer hvalid.ready hallowed hcall i i) hb

/-- A request that an index answers whenever it exists, without touching its documents. -/
theorem ends_lookup (stable : (sharing store runs).Stable i P) (hi : i < runs)
    (call : Index.Call) (hallowed : Allowed store (.index call)) (hcall : call ≠ .deleteAll)
    (each : ∀ m : Memory, ∃ value after, m.answer call = m.ifExists value after)
    (hw : (sharing store runs).Holds P w) :
    (Task.index call).Ends ((sharing store runs).view i) w
      (fun _ => (sharing store runs).Holds P)
      fun _ w' => False ∧ (sharing store runs).Holds P w' := by
  refine ends_answered stable hi call hallowed (fun _ => P) (fun b hvalid hb => ?_) hw
  obtain ⟨value, after, hanswer⟩ := each b.index
  rw [Memory.ifExists_of_isSome hvalid.ready.mapping] at hanswer
  exact ⟨value, congrArg Prod.fst hanswer, stable_act stable hi call hallowed hcall hvalid hb⟩

/-- A write of documents of records is taken as a whole. -/
theorem ends_bulk (stable : (sharing store runs).Stable i P) (hi : i < runs)
    {documents : List Document}
    (hallowed : ∀ d ∈ documents, Keyed.find? d.id store.documents = some d)
    (hw : (sharing store runs).Holds P w) :
    (Task.index (.bulk documents)).Ends ((sharing store runs).view i) w
      (fun outcomes w' => outcomes = documents.map (fun _ => .indexed) ∧
        (sharing store runs).Holds (fun b => P b ∧ ∀ d ∈ documents,
          Keyed.find? d.id b.index.documents = Keyed.find? d.id store.documents) w')
      fun _ w' => False ∧ (sharing store runs).Holds P w' := by
  refine (ends_answered stable hi (.bulk documents) hallowed
    (fun outcomes b => outcomes = documents.map (fun _ => .indexed) ∧ P b ∧
      ∀ d ∈ documents,
        Keyed.find? d.id b.index.documents = Keyed.find? d.id store.documents)
    (fun b hvalid hb => ?_) hw).mono ?_ fun _ _ h => h
  · have hanswer := hvalid.ready.accepting.answer_bulk hvalid.ready.mapping documents
    refine ⟨_, congrArg Prod.fst hanswer, rfl,
      stable_act stable hi (.bulk documents) hallowed (by simp) hvalid hb, fun d hd => ?_⟩
    have hindex : (Board.act store i (.index (.bulk documents)) b).2.index =
        b.index.holding documents := congrArg Prod.snd hanswer
    rw [hindex]
    rcases Memory.find?_holding b.index documents d.id with ⟨hout, -⟩ | ⟨e, he, hid, hfound⟩
    · exact absurd (List.mem_map_of_mem hd) hout
    · rw [hfound, ← hid]
      exact (hallowed e he).symm
  · rintro outcomes w' ⟨b, rfl, hvalid, houtcomes, hb⟩
    exact ⟨houtcomes, b, rfl, hvalid, hb⟩

/-- A record is found among the documents of its store as its document. -/
theorem find?_documents_of_record {key : String} {r : Record}
    (h : Keyed.find? key store.records = some r) :
    Keyed.find? key store.documents = some (Document.ofRecord r) := by
  rw [store.find?_documents, h]
  rfl

/-- Whatever the index lists, an extra document has no record. -/
theorem find?_documents_of_extra (hstore : store.Sound) {listing : List Freshness} {id : String}
    (h : id ∈ (Drift.against store listing).extra) :
    Keyed.find? id store.documents = none := by
  simp only [Drift.against, Drift.between, Drift.normalized_store hstore] at h
  obtain ⟨e, he, rfl⟩ := List.mem_map.1 h
  have habsent := (List.mem_filter.1 he).2
  rw [Keyed.contains_map fun r : Record => Time.normalize r.lastHarvested] at habsent
  rw [store.find?_documents]
  simpa [Keyed.contains] using habsent

/-- A repair of a drift whose extra documents have no records keeps whatever is stable. -/
theorem keeps_view (stable : (sharing store runs).Stable i P) (hi : i < runs) {drift : Drift}
    (hextra : ∀ id ∈ drift.extra, Keyed.find? id store.documents = none) :
    Repair.Keeps store False ((sharing store runs).view i) ((sharing store runs).Holds P)
      drift where
  quiet := quiet_view stable
  bulk documents hdocuments w hw := by
    have hallowed : ∀ d ∈ documents, Keyed.find? d.id store.documents = some d := by
      intro d hd
      obtain ⟨-, r, hr, hrecord⟩ := hdocuments d hd
      exact (find?_documents_of_record hr).trans (congrArg some hrecord.symm)
    refine (ends_bulk stable hi hallowed hw).mono (fun outcomes w' h => ?_) fun _ _ h => h
    exact ⟨h.1, h.2.mono fun _ _ hb => hb.1⟩
  delete id hid w hw := by
    have hallowed := hextra id hid
    intro answer w' step
    obtain ⟨b, hvalid, hb, rfl, rfl⟩ :=
      Sharing.view_step stable (.index (.deleteDocument id)) hallowed step hw
    have hafter : (sharing store runs).Holds P
        (some (Board.act store i (.index (.deleteDocument id)) b).2) :=
      ⟨_, rfl, hvalid.act hi hallowed, stable_act stable hi (.deleteDocument id) hallowed
        (by simp) hvalid hb⟩
    cases ((sharing store runs).act i (.index (.deleteDocument id)) b).1 with
    | ok value => exact hafter
    | error f => exact hafter
  refresh w hw :=
    ends_lookup stable hi .refresh trivial (by simp) (fun _ => ⟨_, _, rfl⟩) hw

/-- A comparison with its repair succeeds beside other runs and keeps whatever is stable. -/
theorem compareAndFix_view (stable : (sharing store runs).Stable i P) (hi : i < runs)
    (hstore : store.Sound) (client : Client) (options : SyncOptions) (sampleSize : Nat)
    (hw : (sharing store runs).Holds P w) :
    (compareAndFix client options sampleSize true).Ends ((sharing store runs).view i) w
      (fun _ => (sharing store runs).Holds P) fun _ _ => False := by
  refine (Repair.compareAndFix_keeps
    (fun drift => ∀ id ∈ drift.extra, Keyed.find? id store.documents = none) (quiet_view stable)
    hstore client options sampleSize ?_ (fun _ hextra => keeps_view stable hi hextra) hw).mono
    (fun _ _ h => h) fun _ _ h => h.1
  intro w hw
  refine (ends_lookup stable hi .scanFreshness trivial (by simp) (fun _ => ⟨_, _, rfl⟩) hw).mono
    (fun listing w' hw' => ⟨fun id hid => ?_, hw'⟩) fun _ _ h => h
  exact find?_documents_of_extra hstore hid

/-- What a full sync knows after it wrote some records: the index has been emptied, and if no other
run has emptied it since, the documents of these records are there. -/
structure Written (store : Store.Memory) (i : Nat) (records : List Record) (b : Board) : Prop where
  emptied : b.emptier ≠ none
  found : b.emptier = some i → ∀ r ∈ records,
    Keyed.find? r.id b.index.documents = Keyed.find? r.id store.documents

theorem Written.stable (store : Store.Memory) (runs i : Nat) (records : List Record) :
    (sharing store runs).Stable i (Written store i records) := by
  intro _ _ _ relies h
  exact ⟨relies.emptied h.emptied, fun hi r hr =>
    relies.kept hi r.id (h.found (relies.emptier hi) r hr)⟩

theorem Written.append {records records' : List Record} {b : Board}
    (h : Written store i records b)
    (h' : ∀ r ∈ records',
      Keyed.find? r.id b.index.documents = Keyed.find? r.id store.documents) :
    Written store i (records ++ records') b := by
  refine ⟨h.emptied, fun hi r hr => ?_⟩
  rcases List.mem_append.1 hr with hr | hr
  · exact h.found hi r hr
  · exact h' r hr

/-- A page is written as a whole. -/
theorem syncPage_view (hi : i < runs) (hstore : store.Sound)
    (fits : store.records.length ≤ Store.wordLimit) (client : Client) (page perPage : Nat)
    {records : List Record} (hw : (sharing store runs).Holds (Written store i records) w) :
    (syncPage client page perPage).Ends ((sharing store runs).view i) w
      (fun _ => (sharing store runs).Holds
        (Written store i (records ++ store.pages page perPage 1)))
      fun _ w' => False ∧ (sharing store runs).Holds (Written store i records) w' := by
  have stable := Written.stable store runs i records
  have hallowed : ∀ d ∈ (store.pages page perPage 1).map Document.ofRecord,
      Keyed.find? d.id store.documents = some d := by
    intro d hd
    obtain ⟨r, hr, rfl⟩ := List.mem_map.1 hd
    exact find?_documents_of_record
      (hstore.find?_of_mem ((store.pages_sublist page perPage 1).subset hr))
  unfold syncPage
  refine ((quiet_view stable).store_ends (store.answer_page fits page perPage) hw).withContext.bind
    ?_ fun _ _ h => h
  rintro page w₁ ⟨rfl, hw₁⟩
  refine client.upsertBatch_ends_of_taken (fun _ => ?_) fun hempty => ?_
  · refine (ends_bulk stable hi hallowed hw₁).mono (fun outcomes w' h => ?_) fun _ _ h => h
    refine ⟨h.1, h.2.mono fun b _ hb => hb.1.append fun r hr => ?_⟩
    exact hb.2 (Document.ofRecord r) (List.mem_map_of_mem hr)
  · rw [List.map_eq_nil_iff.1 hempty, List.append_nil]
    exact hw₁

/-- Pages in a row are written. -/
theorem syncPages_view (hi : i < runs) (hstore : store.Sound)
    (fits : store.records.length ≤ Store.wordLimit) (client : Client) (options : SyncOptions)
    (perPage totalPages count : Nat) {page : Nat} (hpage : 1 ≤ page) (totals : Totals)
    {records : List Record} (hw : (sharing store runs).Holds (Written store i records) w) :
    (syncPages client options perPage totalPages count page totals).Ends
      ((sharing store runs).view i) w
      (fun _ => (sharing store runs).Holds
        (Written store i (records ++ store.pages page perPage count))) fun _ _ => False := by
  induction count generalizing page totals records w with
  | zero =>
    have hnone : store.pages page perPage 0 = [] := by simp [Store.Memory.pages]
    rw [hnone, List.append_nil]
    exact hw
  | succ count ih =>
    have quiet := quiet_view (Written.stable store runs i (records ++ store.pages page perPage 1))
    unfold syncPages
    refine ((quiet_view (Written.stable store runs i records)).retry_ends _ _
      (fun w hw => syncPage_view hi hstore fits client page perPage hw) hw).always_bind ?_
    intro outcome w₁ h
    cases outcome with
    | error given => exact h.1.elim
    | ok total =>
      refine (quiet.report_ends h).always_bind fun _ w₂ hw₂ => ?_
      rw [store.pages_succ hpage, ← List.append_assoc]
      exact ih (Nat.le_add_left 1 page) _ hw₂

/-- A look-up that the client may try again. -/
theorem withTimeoutRetry_lookup (stable : (sharing store runs).Stable i P) (hi : i < runs)
    (client : Client) (name : String) (call : Index.Call)
    (hallowed : Allowed store (.index call)) (hcall : call ≠ .deleteAll)
    (each : ∀ m : Memory, ∃ value after, m.answer call = m.ifExists value after)
    (hw : (sharing store runs).Holds P w) :
    (client.withTimeoutRetry name (Task.index call)).Ends ((sharing store runs).view i) w
      (fun _ => (sharing store runs).Holds P) fun _ _ => False :=
  ((quiet_view stable).withTimeoutRetry_ends client name
    (fun _ hw => ends_lookup stable hi call hallowed hcall each hw) hw).mono (fun _ _ h => h)
    fun _ _ h => h.1

theorem countOrZero_view (stable : (sharing store runs).Stable i P) (hi : i < runs)
    (client : Client) (hw : (sharing store runs).Holds P w) :
    (countOrZero client).Ends ((sharing store runs).view i) w
      (fun _ => (sharing store runs).Holds P) fun _ _ => False := by
  unfold countOrZero
  refine Task.ends_bind.2 (Task.ends_always.2 ?_)
  exact (withTimeoutRetry_lookup stable hi client "count" .count trivial (by simp)
    (fun _ => ⟨_, _, rfl⟩) hw).attempt (fun _ _ h => h) fun _ _ h => h.elim

/-- After a run has emptied the index, it knows nothing of any record. -/
theorem empty_view (stable : (sharing store runs).Stable i P) (hi : i < runs) (client : Client)
    (hw : (sharing store runs).Holds P w) :
    (empty client).Ends ((sharing store runs).view i) w
      (fun _ => (sharing store runs).Holds (Written store i [])) fun _ _ => False := by
  have quiet := quiet_view stable
  have ensured (w : Option Board) (hw : (sharing store runs).Holds P w) :
      Client.ensureSchema.Ends ((sharing store runs).view i) w
        (fun _ => (sharing store runs).Holds P)
        fun _ w' => False ∧ (sharing store runs).Holds P w' := by
    unfold Client.ensureSchema
    refine (ends_answered stable hi .exists trivial
      (fun found b => found = true ∧ P b) (fun b hvalid hb => ?_) hw).bind ?_
      fun _ _ h => h
    · exact ⟨true, congrArg Except.ok hvalid.ready.mapping, rfl, hb⟩
    · rintro found w' ⟨b, rfl, hvalid, rfl, hb⟩
      exact ⟨b, rfl, hvalid, hb⟩
  have emptied (w : Option Board) (hw : (sharing store runs).Holds P w) :
      Client.deleteAllDocuments.Ends ((sharing store runs).view i) w
        (fun _ => (sharing store runs).Holds (Written store i []))
        fun _ w' => False ∧ (sharing store runs).Holds P w' := by
    have hnone (b : Board) : Written store i [] (Board.act store i (.index .deleteAll) b).2 :=
      ⟨nofun, fun _ r hr => absurd hr List.not_mem_nil⟩
    unfold Client.deleteAllDocuments
    refine (ends_answered stable hi .deleteAll trivial
      (fun _ => Written store i []) (fun b hvalid _ => ?_) hw).bind ?_ fun _ _ h => h
    · exact ⟨_, congrArg Prod.fst (Memory.ifExists_of_isSome hvalid.ready.mapping _ _), hnone b⟩
    · intro deleted w₁ hw₁
      have idle := (quiet_view (Written.stable store runs i [])).toIdle
      exact (idle.log_ends hw₁).always_bind fun _ _ h => h
  unfold empty
  refine (quiet.log_ends hw).always_bind fun _ w₁ hw₁ => ?_
  refine (quiet.withTimeoutRetry_ends client "ensure_schema" ensured hw₁).withContext.bind ?_
    fun _ _ h => h.1
  intro _ w₂ hw₂
  exact (quiet.withTimeoutRetry_ends client "delete_all" emptied hw₂).withContext.bind
    (fun _ _ h => h) fun _ _ h => h.1

/-- A full sync succeeds beside other runs. At its end the whole store is there, unless another run
has emptied the index since. -/
theorem fullSync_view (hi : i < runs) (hstore : store.Sound)
    (fits : store.records.length ≤ Store.wordLimit) (client : Client) (options : SyncOptions)
    {perPage : Nat} (hperPage : 1 ≤ perPage)
    (hw : (sharing store runs).Holds (fun _ => True) w) :
    (fullSync client options 1 perPage false).Ends ((sharing store runs).view i) w
      (fun _ => (sharing store runs).Holds (Written store i store.all)) fun _ _ => False := by
  have stable₀ : (sharing store runs).Stable i fun _ => True := fun _ _ _ _ => id
  have hcount : store.answer .countAll = .ok store.records.length := rfl
  have hpages : store.pages (max 1 1) perPage
      (pageCount store.records.length perPage + 1 - max 1 1) = store.all := by
    rw [store.pages_all 1 hperPage]
    simp [Store.Memory.fromPage]
  unfold fullSync
  rw [if_neg (by omega)]
  dsimp only
  refine ((quiet_view stable₀).log_ends hw).always_bind fun _ w₁ hw₁ => ?_
  refine (countOrZero_view stable₀ hi client hw₁).bind (fun before w₂ hw₂ => ?_) fun _ _ h => h
  rw [if_neg (by simp)]
  refine (empty_view stable₀ hi client hw₂).bind (fun _ w₃ hw₃ => ?_) fun _ _ h => h
  have quiet := quiet_view (Written.stable store runs i [])
  refine (quiet.store_ends hcount hw₃).withContext.bind ?_ fun _ _ h => h.1
  rintro count w₄ ⟨rfl, hw₄⟩
  refine (quiet.report_ends hw₄).always_bind fun _ w₅ hw₅ => ?_
  refine (quiet.log_ends hw₅).always_bind fun _ w₆ hw₆ => ?_
  refine (syncPages_view hi hstore fits client options perPage _ _ (Nat.le_max_right 1 1) {}
    hw₆).bind (fun totals w₇ hw₇ => ?_) fun _ _ h => h
  rw [List.nil_append, hpages] at hw₇
  have stable := Written.stable store runs i store.all
  refine ((quiet_view stable).log_ends hw₇).always_bind fun _ w₈ hw₈ => ?_
  refine (withTimeoutRetry_lookup stable hi client "refresh" .refresh trivial (by simp)
    (fun _ => ⟨_, _, rfl⟩) hw₈).withContext.bind (fun _ w₉ hw₉ => ?_) fun _ _ h => h
  refine (withTimeoutRetry_lookup stable hi client "count" .count trivial (by simp)
    (fun _ => ⟨_, _, rfl⟩) hw₉).bind (fun _ w₁₀ hw₁₀ => ?_) fun _ _ h => h
  refine ((quiet_view stable).log_ends hw₁₀).always_bind fun _ w₁₁ hw₁₁ => ?_
  exact ((quiet_view stable).log_ends hw₁₁).always_bind fun _ _ h => h

end CatalogSearch.Sync
