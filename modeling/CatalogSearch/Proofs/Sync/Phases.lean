import CatalogSearch.Proofs.Sync.Opening
import CatalogSearch.Proofs.Sync.Order

/-!
# The phases of a full sync

A full sync prepares the index, writes page after page, and concludes. Each phase keeps to calls of
its own, and each leaves a history from which the next one may go on, or one that is in order as it
is.
-/
namespace CatalogSearch.Sync

open Index (Client)
open Job (Event recording)

variable {client : Client} {options : SyncOptions} {startPage perPage : Nat} {recreateSchema : Bool}
  {w during : List Event} {e : Event}

/-- A call that belongs to the preparation of the index. -/
def Prepares : Effect → Prop
  | .index .count => True
  | .index .exists => True
  | .index (.create _) => True
  | .index .drop => True
  | .index .mapping => True
  | .index .deleteAll => True
  | _ => False

/-- Nothing was called for yet but to prepare the index. -/
def Preparing (history : List Event) : Prop :=
  ∀ e ∈ history, e.1.isCall = true → Prepares e.1

theorem isBulk_of_prepares {effect : Effect} (h : effect.isCall = true → Prepares effect) :
    isBulk effect = false := by
  cases effect with
  | index call => cases call <;> simp_all [Effect.isCall, Prepares, isBulk]
  | _ => rfl

theorem reads_of_prepares {effect : Effect} (h : effect.isCall = true → Prepares effect)
    (page : Nat) : reads page perPage effect = false := by
  cases effect with
  | store call => exact nomatch h rfl
  | _ => rfl

theorem Preparing.concat (hw : Preparing w) (he : e.1.isCall = true → Prepares e.1) :
    Preparing (w ++ [e]) := by
  intro e' he'
  rcases List.mem_append.1 he' with he' | he'
  · exact hw e' he'
  · obtain rfl := List.mem_singleton.1 he'
    exact he

/-- The preparation may go on, and it may stop at any time. -/
theorem Preparing.going (hw : Preparing w) :
    Going client options startPage perPage recreateSchema w where
  allowed := by
    rintro before e after rfl
    have he := hw e (by simp)
    constructor
    · rw [isBulk_of_prepares he]
      exact fun bulk => nomatch bulk
    · intro _ e' he'
      exact isBulk_of_prepares (hw e' (by simp [he']))
    · intro refresh
      rw [refresh] at he
      exact nomatch he rfl
  settled := by
    rintro before e rest page rfl read
    rw [reads_of_prepares (hw e (by simp))] at read
    cases read

/-- A part of the preparation, tried again after time-outs: where it succeeds, one of the attempts
has succeeded. -/
theorem Preparing.retried_ends {α : Type} {task : Task α} (asks : task.Asks Prepares)
    (client : Client) (name : String) (hw : Preparing w) :
    (client.withTimeoutRetry name task).Ends recording w
      (fun _ w' => Preparing w' ∧ task.Succeeded w') fun _ w' => Preparing w' := by
  have idle : Idle recording fun w => True ∧ Preparing w := by
    constructor
    · rintro entry w answer _ rfl ⟨-, hw⟩
      exact ⟨trivial, hw.concat fun call => nomatch call⟩
    · rintro span w answer _ rfl ⟨-, hw⟩
      exact ⟨trivial, hw.concat fun call => nomatch call⟩
  have each (w : List Event) (hw : Preparing w) : task.Ends recording w
      (fun _ w' => Preparing w' ∧ task.Succeeded w') fun _ w' => True ∧ Preparing w' := by
    refine (Job.ends_ran task.attempt w).mono ?_
    rintro outcome _ ⟨during, rfl, ran⟩
    have prepared : Preparing (w ++ during) := by
      intro e he
      rcases List.mem_append.1 he with he | he
      · exact hw e he
      · exact ran.asks asks e he
    cases outcome with
    | ok value => exact ⟨prepared, Task.succeeded_of_ran ran w⟩
    | error failure => exact ⟨trivial, prepared⟩
  exact (Idle.withTimeoutRetry_ends (fun _ => idle) client name each hw).mono (fun _ _ h => h)
    fun _ _ h => h.2

/-- What belongs to the preparation keeps what was brought about. -/
theorem Preparing.keeps_ends {α : Type} {task : Task α} (asks : task.Asks Prepares)
    (hw : Preparing w ∧ Emptied recreateSchema w) :
    task.Ends recording w (fun _ w' => Preparing w' ∧ Emptied recreateSchema w')
      fun _ w' => Preparing w' ∧ Emptied recreateSchema w' :=
  asks.ends (fun _ _ h he => ⟨h.1.concat he, h.2.append _⟩) hw

/-- All that comes before the page loop belongs to the preparation. -/
theorem opens_prepares : Opens fun effect => effect.isCall = true → Prepares effect where
  note _ _ call := nomatch call
  pause _ call := nomatch call
  count _ := trivial
  «exists» _ := trivial
  create _ _ := trivial
  drop _ := trivial
  mapping _ := trivial
  deleteAll _ := trivial

theorem Preparing.note_ends {level : Log.Level} {target message : String}
    {details : List (String × String)} (hw : Preparing w) :
    (Job.log level target message details).Ends recording w fun _ => Preparing := by
  rintro answer _ rfl
  exact hw.concat fun call => nomatch call

/-- Where the index is to be created again, it has been at the end. -/
theorem Preparing.recreate_ends (client : Client) (hw : Preparing w) :
    (recreate client).Ends recording w (fun _ w' => Preparing w' ∧ Emptied true w')
      fun _ => Preparing := by
  unfold recreate
  apply hw.note_ends.always_bind
  intro _ w₁ hw₁
  have created := hw₁.retried_ends opens_prepares.recreateSchema.asks client "recreate_schema"
  apply created.withContext.bind
  · intro _ w₂ emptied
    refine (Preparing.keeps_ends ?_ emptied).mono (fun _ _ h => h) fun _ _ h => h.1
    have looks := opens_prepares.hasExactKeywordField.asks.withTimeoutRetry client "get_mapping"
    apply Task.asks_bind looks
    intro exact
    split
    · exact Task.asks_bind (Task.asks_always Job.asks_log) fun _ => Task.asks_pure _
    · exact Task.asks_pure _
  · exact fun _ _ h => h

/-- Otherwise it has been emptied. -/
theorem Preparing.empty_ends (client : Client) (hw : Preparing w) :
    (empty client).Ends recording w (fun _ w' => Preparing w' ∧ Emptied false w')
      fun _ => Preparing := by
  unfold empty
  apply hw.note_ends.always_bind
  intro _ w₁ hw₁
  apply (hw₁.retried_ends opens_prepares.ensureSchema.asks client "ensure_schema").withContext.bind
  · intro _ w₂ hw₂
    have emptied := hw₂.1.retried_ends opens_prepares.deleteAllDocuments.asks client "delete_all"
    apply emptied.withContext.bind
    · exact fun _ _ h => h
    · exact fun _ _ h => h
  · exact fun _ _ h => h

/-- Whether it is created again or emptied, the index is ready for what comes next. -/
theorem Preparing.emptied_ends {α : Type} (client : Client) (recreateSchema : Bool)
    (hw : Preparing w) (rest : Bool → Task α) {good : α → List Event → Prop}
    {bad : Failure → List Event → Prop}
    (next : ∀ exact w', Preparing w' → Emptied recreateSchema w' →
      (rest exact).Ends recording w' good bad)
    (stops : ∀ f w', Preparing w' → bad f w') :
    (if recreateSchema = true then do
        let exact ← recreate client
        rest exact
      else do
        empty client
        let exact ← pure true
        rest exact).Ends recording w good bad := by
  have ready (exact : Bool) (w' : List Event) (h : Preparing w' ∧ Emptied recreateSchema w') :
      (rest exact).Ends recording w' good bad := next exact w' h.1 h.2
  refine opened_ends ?_ ?_ ready
  · rintro rfl
    exact (hw.recreate_ends client).mono (fun _ _ h => h) stops
  · rintro rfl
    exact (hw.empty_ends client).mono (fun _ _ h => h) stops

theorem Counted.append {n : Nat} (h : Counted n w)
    (uncounted : ∀ e ∈ during, e.1 ≠ .store .countAll) : Counted n (w ++ during) := by
  intro answer
  rw [List.mem_append, h answer, or_iff_left]
  exact fun he => uncounted _ he rfl

theorem Paged.append {first next : Nat} (h : Paged client perPage first next w)
    (more : List Event) : Paged client perPage first next (w ++ more) :=
  fun page hfirst hnext => (h page hfirst hnext).append more

theorem asked_append (page perPage : Nat) (w during : List Event) :
    asked page perPage (w ++ during) = asked page perPage w + asked page perPage during :=
  List.countP_append

/-- An attempt at a page asks once for this page, and for no other one. -/
theorem asked_attempt {page : Nat} {outcome : Except Failure Index.BulkSummary}
    (ran : (syncPage client page perPage).attempt.Ran during outcome) (page' : Nat) :
    asked page' perPage during = if page = page' then 1 else 0 := by
  obtain ⟨answer, tail, rfl, writes⟩ := syncPage_ran ran
  have none : tail.countP (fun e => reads page' perPage e.1) = 0 := by
    apply List.countP_eq_zero.2
    intro e he
    simp [reads_of_writes (writes e he)]
  rw [asked, List.countP_cons, none]
  simp [reads]

/-- Neither does it ask for the number of records. -/
theorem uncounted_attempt {page : Nat} {outcome : Except Failure Index.BulkSummary}
    (ran : (syncPage client page perPage).attempt.Ran during outcome) :
    ∀ e ∈ during, e.1 ≠ .store .countAll := by
  obtain ⟨answer, tail, rfl, writes⟩ := syncPage_ran ran
  intro e he count
  rcases List.mem_cons.1 he with rfl | he
  · simp at count
  · have := writes e he
    simp [count, Effect.isCall, isBulk] at this

/-- The history of a full sync that has come to a page, after some attempts at it. -/
structure Paging (client : Client) (options : SyncOptions) (startPage perPage : Nat)
    (recreateSchema : Bool) (n page made : Nat) (history : List Event) : Prop
    extends Going client options startPage perPage recreateSchema history where
  ready : Emptied recreateSchema history
  counted : Counted n history
  paged : Paged client perPage (max startPage 1) page history
  tries : asked page perPage history = made
  fresh : ∀ later, page < later → asked later perPage history = 0

variable {n page made : Nat}

theorem Paging.note
    (h : Paging client options startPage perPage recreateSchema n page made w)
    (note : e.1.isCall = false) :
    Paging client options startPage perPage recreateSchema n page made (w ++ [e]) := by
  have unread (page : Nat) : reads page perPage e.1 = false := by
    apply reads_of_prepares
    simp [note]
  have asked_note (page : Nat) : asked page perPage (w ++ [e]) = asked page perPage w := by
    simp [asked, unread]
  refine ⟨h.toGoing.add (allowed_of_not_isCall note) unread, h.ready.append _, ?_,
    h.paged.append _, ?_, ?_⟩
  · apply h.counted.append
    intro e' he' count
    rw [List.mem_singleton.1 he'] at count
    simp [count, Effect.isCall] at note
  · rw [asked_note]
    exact h.tries
  · intro later hlater
    rw [asked_note]
    exact h.fresh later hlater

/-- An attempt that failed, but not for good, is one more attempt. -/
theorem Paging.retried {failure : Failure}
    (h : Paging client options startPage perPage recreateSchema n page made w)
    (ran : (syncPage client page perPage).attempt.Ran during (.error failure))
    (passes : options.classifier failure = .retryable) (left : made < options.maxRetries) :
    Paging client options startPage perPage recreateSchema n page (made + 1) (w ++ during) where
  toGoing := by
    apply h.toGoing.attempt h.ready ran
    rintro failure' ⟨rfl⟩ (fatal | used)
    · rw [passes] at fatal
      cases fatal
    · rw [h.tries] at used
      omega
  ready := h.ready.append during
  counted := h.counted.append (uncounted_attempt ran)
  paged := h.paged.append during
  tries := by
    rw [asked_append, h.tries, asked_attempt ran, if_pos rfl]
  fresh later hlater := by
    rw [asked_append, h.fresh later hlater, asked_attempt ran, if_neg (by omega)]

/-- After an attempt that succeeded, it is the next page's turn. -/
theorem Paging.next {value : Index.BulkSummary}
    (h : Paging client options startPage perPage recreateSchema n page made w)
    (ran : (syncPage client page perPage).attempt.Ran during (.ok value)) :
    Paging client options startPage perPage recreateSchema n (page + 1) 0 (w ++ during) where
  toGoing := by
    apply h.toGoing.attempt h.ready ran
    intro failure same
    cases same
  ready := h.ready.append during
  counted := h.counted.append (uncounted_attempt ran)
  paged page' hfirst hnext := by
    by_cases last : page' = page
    · rw [last]
      exact Task.succeeded_of_ran ran w
    · exact h.paged.append during page' hfirst (by omega)
  tries := by
    rw [asked_append, h.fresh _ (by omega), asked_attempt ran, if_neg (by omega)]
  fresh later hlater := by
    rw [asked_append, h.fresh _ (by omega), asked_attempt ran, if_neg (by omega)]

/-- Attempts at a page end with the next page's turn, or with the last of them. -/
theorem Paging.attempts_ends (name : String) (left : Nat)
    (h : Paging client options startPage perPage recreateSchema n page made w)
    (some : 1 ≤ perPage) (total : made + left = options.maxRetries) :
    (Retry.attempts ⟨options.maxRetries, options.retryBaseDelay, options.classifier⟩ name
      (syncPage client page perPage) made left).Ends recording w fun
        | .ok _, w' => Paging client options startPage perPage recreateSchema n (page + 1) 0 w'
        | .error _, w' => InOrder client options startPage perPage recreateSchema w' := by
  induction left generalizing made w with
  | zero =>
    apply Job.ends_bind.2
    refine (Job.ends_ran _ w).mono ?_
    rintro outcome _ ⟨during, rfl, ran⟩
    cases outcome with
    | ok value => exact h.next ran
    | error failure =>
      have last := h.toGoing.inOrder_last some h.ready ran
      dsimp only
      split
      · exact last
      · rintro answer _ rfl
        exact last.note rfl
  | succ left ih =>
    apply Job.ends_bind.2
    refine (Job.ends_ran _ w).mono ?_
    rintro outcome _ ⟨during, rfl, ran⟩
    cases outcome with
    | ok value => exact h.next ran
    | error failure =>
      dsimp only
      split
      · exact h.toGoing.inOrder_last some h.ready ran
      · next passes =>
        have again := h.retried ran passes (by omega)
        rintro answer _ rfl answer' _ rfl
        exact ih ((again.note rfl).note rfl) (by omega)

/-- All pages are written, or one was given up and nothing has come after it. -/
theorem Paging.syncPages_ends (count total : Nat) (totals : Totals)
    (h : Paging client options startPage perPage recreateSchema n page 0 w) (some : 1 ≤ perPage) :
    (syncPages client options perPage total count page totals).Ends recording w
      (fun _ => Paging client options startPage perPage recreateSchema n (page + count) 0)
      fun _ => InOrder client options startPage perPage recreateSchema := by
  induction count generalizing page totals w with
  | zero => exact h
  | succ count ih =>
    unfold syncPages
    apply (h.attempts_ends _ options.maxRetries some (Nat.zero_add _)).always_bind
    intro outcome w' hw'
    cases outcome with
    | error given =>
      rintro answer _ rfl
      exact hw'.note rfl
    | ok summary =>
      have shifted : page + (count + 1) = page + 1 + count := by omega
      rw [shifted]
      rintro answer _ rfl
      exact ih _ (hw'.note rfl)

/-- A call that belongs to the end of a full sync. -/
def Concludes : Effect → Prop
  | .index .refresh => True
  | .index .count => True
  | _ => False

/-- The history of a full sync that has written all pages. -/
structure Concluding (client : Client) (options : SyncOptions) (startPage perPage : Nat)
    (recreateSchema : Bool) (history : List Event) : Prop
    extends Going client options startPage perPage recreateSchema history where
  complete : Complete client startPage perPage history

/-- The end may go on, and it may stop at any time. -/
theorem Concluding.concat
    (h : Concluding client options startPage perPage recreateSchema w)
    (he : e.1.isCall = true → Concludes e.1) :
    Concluding client options startPage perPage recreateSchema (w ++ [e]) := by
  have kinds : isBulk e.1 = false ∧ resets e.1 = false ∧ e.1 ≠ .store .countAll ∧
      ∀ page, reads page perPage e.1 = false := by
    cases heffect : e.1 with
    | store call => simp [heffect, Effect.isCall, Concludes] at he
    | index call => cases call <;> simp_all [Effect.isCall, Concludes, isBulk, resets, reads]
    | _ => simp [isBulk, resets, reads]
  obtain ⟨bulk, reset, uncounted, unread⟩ := kinds
  refine ⟨h.toGoing.add ⟨?_, ?_, fun _ => h.complete⟩ unread, ?_⟩
  · simp [bulk]
  · simp [reset]
  · obtain ⟨n, counted, paged⟩ := h.complete
    refine ⟨n, counted.append ?_, paged.append _⟩
    intro e' he'
    rwa [List.mem_singleton.1 he']

/-- A task that belongs to the end leaves the calls in order. -/
theorem Concluding.ends {α : Type} {task : Task α}
    (h : Concluding client options startPage perPage recreateSchema w) (some : 1 ≤ perPage)
    (asks : task.Asks Concludes) :
    task.Ends recording w (fun _ => InOrder client options startPage perPage recreateSchema)
      fun _ => InOrder client options startPage perPage recreateSchema := by
  apply (asks.ends (fun _ _ h he => Concluding.concat h he) h).mono
  · exact fun _ _ h => h.toGoing.inOrder some
  · exact fun _ _ h => h.toGoing.inOrder some

/-- With the last page, all are written. -/
theorem Paging.concluding
    (h : Paging client options startPage perPage recreateSchema n page made w)
    (last : pageCount n perPage < page) :
    Concluding client options startPage perPage recreateSchema w where
  toGoing := h.toGoing
  complete := ⟨n, h.counted, fun page' hfirst hlast => h.paged page' hfirst (by omega)⟩

/-- A full sync starts to write its first page as soon as the index is empty and the records are
counted. -/
theorem Preparing.paging (hw : Preparing w) (ready : Emptied recreateSchema w) (n : Nat) :
    Paging client options startPage perPage recreateSchema n (max startPage 1) 0
      (w ++ [⟨.store .countAll, .ok n⟩]) := by
  have unasked (page : Nat) : asked page perPage (w ++ [⟨.store .countAll, .ok n⟩]) = 0 := by
    apply List.countP_eq_zero.2
    intro e he
    rcases List.mem_append.1 he with he | he
    · simp [reads_of_prepares (hw e he)]
    · simp [List.mem_singleton.1 he, reads]
  refine ⟨hw.going.add ?_ fun _ => rfl, ready.append _, ?_, ?_, unasked _, fun _ _ => unasked _⟩
  · constructor <;> simp [isBulk, resets]
  · intro answer
    have uncounted : (⟨.store .countAll, answer⟩ : Event) ∉ w := fun he => hw _ he rfl
    simp [uncounted]
  · intro page hfirst hlast
    omega

/-- The records are counted, or the run stops. -/
theorem Preparing.count_ends (hw : Preparing w) (ready : Emptied recreateSchema w)
    (some : 1 ≤ perPage) :
    (Task.store .countAll).Ends recording w
      (fun n w' =>
        Paging client options startPage perPage recreateSchema n (max startPage 1) 0 w')
      fun _ w' => InOrder client options startPage perPage recreateSchema w' := by
  rintro answer _ rfl
  cases answer with
  | ok n => exact hw.paging ready n
  | error failure =>
    apply Going.inOrder _ some
    apply hw.going.add _ fun _ => rfl
    constructor <;> simp [isBulk, resets]

theorem inOrder_nil : InOrder client options startPage perPage recreateSchema [] where
  allowed := Job.justified_nil
  last before during after page failure split _ _ := by
    obtain ⟨-, rfl⟩ := List.append_eq_nil_iff.1 split.symm
    simp
  idle _ := by simp

/-- However a full sync ends, its calls were in order. -/
theorem fullSync_inOrder (client : Client) (options : SyncOptions) (startPage perPage : Nat)
    (recreateSchema : Bool) :
    (fullSync client options startPage perPage recreateSchema).Ends recording []
      (fun _ => InOrder client options startPage perPage recreateSchema)
      fun _ => InOrder client options startPage perPage recreateSchema := by
  rcases Nat.eq_zero_or_pos perPage with rfl | some
  · exact inOrder_nil
  have prepared (w : List Event) (hw : Preparing w) :
      InOrder client options startPage perPage recreateSchema w := hw.going.inOrder some
  have preparing : Preparing [] := fun e he => nomatch he
  unfold fullSync
  rw [if_neg (by omega)]
  dsimp only
  apply preparing.note_ends.always_bind
  intro _ w₁ hw₁
  have counted := (opens_prepares.countOrZero client).asks
  apply (counted.ends (fun _ _ hw he => Preparing.concat hw he) hw₁).bind
  · intro before w₂ hw₂
    apply hw₂.emptied_ends client recreateSchema
    · intro exact w₃ hw₃ ready
      apply (hw₃.count_ends ready some).withContext.bind
      · intro n w₄ hw₄
        rintro _ _ rfl _ _ rfl
        apply (((hw₄.note rfl).note rfl).syncPages_ends _ _ {} some).bind
        · intro totals w₅ hw₅
          have refresh : (Task.index .refresh).Asks Concludes := Task.asks_index trivial
          have count : (Task.index .count).Asks Concludes := Task.asks_index trivial
          apply (hw₅.concluding (by omega)).ends some
          apply Task.asks_bind (Task.asks_always Job.asks_log)
          intro _
          apply Task.asks_bind (refresh.withTimeoutRetry client "refresh").withContext
          intro _
          apply Task.asks_bind (count.withTimeoutRetry client "count")
          intro after
          apply Task.asks_bind (Task.asks_always Job.asks_log)
          intro _
          exact Task.asks_bind (Task.asks_always Job.asks_log) fun _ => Task.asks_pure _
        · exact fun _ _ h => h
      · exact fun _ _ h => h
    · exact fun _ => prepared
  · exact fun _ => prepared

/-- Whatever the store and the index answer, and however their calls fail, the calls of a full sync
are in order. -/
theorem fullSync_keeps_order {σ : Type} (handler : Job.Handler σ) (s : σ) (client : Client)
    (options : SyncOptions) (startPage perPage : Nat) (recreateSchema : Bool) :
    InOrder client options startPage perPage recreateSchema
      ((fullSync client options startPage perPage recreateSchema).attempt.trace handler s) := by
  have ends := fullSync_inOrder client options startPage perPage recreateSchema
  have order := Job.Ends.trace handler (s := s) ends
  rw [List.nil_append] at order
  split at order <;> exact order

end CatalogSearch.Sync
