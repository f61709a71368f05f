import CatalogSearch.Proofs.Rehearsal.Struck
import CatalogSearch.Proofs.Retry.Attempts
import CatalogSearch.Proofs.Sync.Pages
import CatalogSearch.Proofs.Sync.Phases

/-!
# What a full sync has done that gives up a page

A full sync that fails in its page loop names a page. All pages before it were processed, and their
records are in the index unless it refused them. The page itself was attempted as often as the
failure says, no later page was read, and the index was not refreshed. Any call may fail in any way
before it takes effect or after.
-/
namespace CatalogSearch

open Index (Bulking BulkSummary Client Memory)
open Job (Event recorded unnoted)
open Rehearsal (Fate Journal Stage calm struck struck_follows unreliable)
open Retry (Try)

variable {store : Store.Memory} {m m' : Memory}

/-- Whatever becomes of a call, the index stays sound. -/
theorem unreliable_sound (effect : Effect) (m : Memory) (answer : effect.Answer) (m' : Memory)
    (step : unreliable store effect m answer m') (h : m.Sound) : m'.Sound := by
  cases effect with
  | store call => exact step.1 ▸ h
  | index call =>
    rcases step with ⟨-, rfl⟩ | ⟨-, rfl | rfl⟩
    · exact h.answer call
    · exact h
    · exact h.answer call
  | pause span => exact step ▸ h
  | report event => exact step ▸ h
  | log entry => exact step ▸ h

/-- What is no call changes no index. -/
theorem perform_unreliable {effect : Effect} (call : effect.isCall = false) (history : List Event)
    (m : Memory) : (Job.perform effect).Ends (recorded (unreliable store)) (history, m)
      fun answer w => w = (history ++ [⟨effect, answer⟩], m) := by
  rintro answer ⟨_, m'⟩ ⟨rfl, step⟩
  cases effect with
  | store question => cases call
  | index question => cases call
  | pause span => exact congrArg (history ++ _, ·) step
  | report event => exact congrArg (history ++ _, ·) step
  | log entry => exact congrArg (history ++ _, ·) step

theorem bulking_unreliable : Bulking (unreliable store) id True Memory.Sound where
  sound _ h := h
  log entry m answer m' step h := by
    obtain rfl : m' = m := step
    exact ⟨rfl, h⟩
  pause span m answer m' step h := by
    obtain rfl : m' = m := step
    exact ⟨rfl, h⟩
  bulk documents m answer m' step h :=
    ⟨unreliable_sound _ m answer m' step h, step.imp_right fun fails => ⟨trivial, fails⟩⟩

namespace Sync

variable {client : Client} {options : SyncOptions} {perPage start page : Nat}
  {history events : List Event} {e : Event}

/-- The records of a page are in the index, except for those that it refused. -/
def Carried (store : Store.Memory) (perPage page : Nat) (refused : List String) (m : Memory) :
    Prop :=
  ∀ r ∈ store.pages page perPage 1,
    Keyed.find? r.id m.documents = some (Document.ofRecord r) ∨ r.id ∈ refused

/-- Nothing has changed in the index but under the ids of a page. -/
def Outside (store : Store.Memory) (perPage page : Nat) (m m' : Memory) : Prop :=
  ∀ key ∉ (pageDocuments store page perPage).map (·.id),
    Keyed.find? key m'.documents = Keyed.find? key m.documents

theorem Outside.trans {m'' : Memory} (h : Outside store perPage page m m')
    (h' : Outside store perPage page m' m'') : Outside store perPage page m m'' :=
  fun key elsewhere => (h' key elsewhere).trans (h key elsewhere)

/-- Different pages hold different records. -/
theorem not_mem_later_page (hstore : store.Sound) {earlier later : Nat} (first : 1 ≤ earlier)
    (before : earlier < later) {r : Record} (mem : r ∈ store.pages earlier perPage 1) :
    r.id ∉ (pageDocuments store later perPage).map (·.id) := by
  have ascend := hstore.ids_ascend
  rw [← List.take_append_drop (earlier * perPage) store.all, List.pairwise_append] at ascend
  have inside : r ∈ store.all.take (earlier * perPage) := by
    obtain ⟨skipped, rfl⟩ : ∃ skipped, earlier = skipped + 1 := ⟨earlier - 1, by omega⟩
    rw [Store.Memory.pages, List.take_drop, Nat.add_sub_cancel, ← Nat.add_mul] at mem
    exact List.mem_of_mem_drop mem
  rw [pageDocuments, Document.ids_ofRecord]
  intro same
  obtain ⟨s, smem, sid⟩ := List.mem_map.1 same
  have beyond : s ∈ store.all.drop (earlier * perPage) := by
    have offset : earlier * perPage ≤ (later - 1) * perPage :=
      Nat.mul_le_mul_right perPage (by omega)
    obtain ⟨more, gap⟩ := Nat.exists_eq_add_of_le offset
    have dropped := List.mem_of_mem_take smem
    rw [gap, ← List.drop_drop] at dropped
    exact List.mem_of_mem_drop dropped
  have less := ascend.2.2 r inside s beyond
  rw [sid] at less
  exact String.lt_irrefl r.id less

theorem Carried.outside {earlier : Nat} {refused : List String} (hstore : store.Sound)
    (h : Carried store perPage earlier refused m) (first : 1 ≤ earlier) (before : earlier < page)
    (outside : Outside store perPage page m m') : Carried store perPage earlier refused m' := by
  intro r mem
  rw [outside r.id (not_mem_later_page hstore first before mem)]
  exact h r mem

/-- An attempt at a page changes nothing elsewhere; if it succeeds, the page is brought over. -/
theorem syncPage_outside (client : Client) (hstore : store.Sound)
    (fits : store.records.length ≤ Store.wordLimit) (sound : m.Sound) :
    (syncPage client page perPage).Ends (unreliable store) m
      (fun total m' => Carried store perPage page (total.errors.map (·.documentId)) m' ∧
        m'.Sound ∧ Outside store perPage page m m')
      fun _ m' => m'.Sound ∧ Outside store perPage page m m' := by
  have read : (Task.store (.page page perPage)).Ends (unreliable store) m
      (fun records m' => records = store.pages page perPage 1 ∧ m' = m) fun _ m' => m' = m := by
    rintro answer _ ⟨rfl, rfl | ⟨f, rfl⟩⟩
    · rw [store.answer_page fits page perPage]
      exact ⟨rfl, rfl⟩
    · rfl
  have distinct : ((pageDocuments store page perPage).map (·.id)).Nodup :=
    hstore.distinct_documents (store.pages_sublist page perPage 1)
  unfold syncPage
  refine read.withContext.bind ?_ ?_
  · rintro records _ ⟨rfl, rfl⟩
    refine (bulking_unreliable.upsertBatch_ends client distinct sound).mono ?_ ?_
    · rintro total m' ⟨-, wrote, sound'⟩
      refine ⟨fun r mem => ?_, sound', fun key elsewhere => wrote.kept key (absurd · elsewhere)⟩
      rw [or_iff_not_imp_right]
      exact wrote.taken _ (List.mem_map_of_mem mem)
    · rintro f m' ⟨-, tried, sound'⟩
      refine ⟨sound', fun key elsewhere => (tried.found key).resolve_right ?_⟩
      rintro ⟨d, mem, rfl, -⟩
      exact elsewhere (List.mem_map_of_mem mem)
  · rintro f _ rfl
    exact ⟨sound, fun _ _ => rfl⟩

/-- How the page loop retries. -/
def pagePolicy (options : SyncOptions) : Retry.Policy :=
  ⟨options.maxRetries, options.retryBaseDelay, options.classifier⟩

/-- The attempts at a page, as a part of a history. -/
abbrev Tried (client : Client) (options : SyncOptions) (perPage page : Nat)
    (tries : List (Try BulkSummary)) (events : List Event)
    (result : Except Retry.GivenUp BulkSummary) : Prop :=
  Retry.Retried (pagePolicy options) (syncPage client page perPage) 0 options.maxRetries tries
    events result

variable {tries : List (Try BulkSummary)} {result : Except Retry.GivenUp BulkSummary}

/-- The attempts at a page read it once each, and no other page. -/
theorem asked_tried (h : Tried client options perPage page tries events result) (page' : Nat) :
    asked page' perPage events = if page = page' then tries.length else 0 := by
  have each (t : Try BulkSummary) (ht : t ∈ tries) :
      t.events.countP (fun e => reads page' perPage e.1) = if page = page' then 1 else 0 :=
    asked_attempt (h.ran t ht) page'
  rw [asked, h.countP (fun _ _ => rfl) (fun _ _ => rfl), List.map_congr_left each,
    List.map_const', List.sum_replicate_nat]
  split <;> simp

def refreshes : Effect → Bool
  | .index .refresh => true
  | _ => false

/-- The attempts at a page do not refresh the index. -/
theorem not_refreshes_tried (h : Tried client options perPage page tries events result) :
    ∀ e ∈ events, refreshes e.1 = false := by
  have each (t : Try BulkSummary) (ht : t ∈ tries) :
      t.events.countP (fun e => refreshes e.1) = 0 := by
    obtain ⟨answer, tail, same, writes⟩ := syncPage_ran (h.ran t ht)
    rw [same, List.countP_eq_zero]
    rintro e mem
    rcases List.mem_cons.1 mem with rfl | mem
    · simp [refreshes]
    · have write := writes e mem
      cases effect : e.1 with
      | index call => cases call <;> simp_all [Effect.isCall, isBulk, refreshes]
      | _ => simp [refreshes]
  have total : events.countP (fun e => refreshes e.1) = 0 := by
    rw [h.countP (fun _ _ => rfl) (fun _ _ => rfl), List.map_congr_left each, List.map_const',
      List.sum_replicate_nat, Nat.mul_zero]
  intro e mem
  simpa using List.countP_eq_zero.1 total e mem

/-- The attempts at a page within a whole history, in which it is read nowhere else. -/
structure Worked (client : Client) (options : SyncOptions) (perPage page : Nat)
    (tries : List (Try BulkSummary)) (result : Except Retry.GivenUp BulkSummary)
    (history : List Event) : Prop where
  part : ∃ before events after, history = before ++ events ++ after ∧
    Tried client options perPage page tries events result
  often : asked page perPage history = tries.length

/-- What does not read the page adds no attempt. -/
theorem Worked.append (h : Worked client options perPage page tries result history)
    {more : List Event} (elsewhere : asked page perPage more = 0) :
    Worked client options perPage page tries result (history ++ more) where
  part := by
    obtain ⟨before, events, after, rfl, tried⟩ := h.part
    exact ⟨before, events, after ++ more, List.append_assoc .., tried⟩
  often := by
    rw [asked_append, h.often, elsewhere, Nat.add_zero]

/-- A page that was not read before is worked on for the first time. -/
theorem Tried.worked (h : Tried client options perPage page tries events result)
    (unread : asked page perPage history = 0) :
    Worked client options perPage page tries result (history ++ events) where
  part := ⟨history, events, [], (List.append_nil _).symm, h⟩
  often := by
    rw [asked_append, unread, asked_tried h, if_pos rfl, Nat.zero_add]

/-- The pages from one on, up to before another, were processed and brought to the index, and the
index was not refreshed. -/
structure Behind (store : Store.Memory) (client : Client) (options : SyncOptions)
    (perPage start page : Nat) (history : List Event) (m : Memory) : Prop where
  pages : ∀ earlier, start ≤ earlier → earlier < page → ∃ tries summary,
    Worked client options perPage earlier tries (.ok summary) history ∧
      Carried store perPage earlier (summary.errors.map (·.documentId)) m
  unrefreshed : ∀ e ∈ history, refreshes e.1 = false

/-- What belongs to no earlier page leaves what is behind as it is. -/
theorem Behind.append (h : Behind store client options perPage start page history m)
    {more : List Event} (elsewhere : ∀ earlier < page, asked earlier perPage more = 0)
    (unrefreshed : ∀ e ∈ more, refreshes e.1 = false)
    (kept : ∀ earlier refused, start ≤ earlier → earlier < page →
      Carried store perPage earlier refused m → Carried store perPage earlier refused m') :
    Behind store client options perPage start page (history ++ more) m' where
  pages earlier first before := by
    obtain ⟨tries, summary, worked, brought⟩ := h.pages earlier first before
    exact ⟨tries, summary, worked.append (elsewhere earlier before), kept _ _ first before brought⟩
  unrefreshed e mem := (List.mem_append.1 mem).elim (h.unrefreshed e) (unrefreshed e)

/-- The attempts at a page leave the earlier ones behind. -/
theorem Behind.tried (h : Behind store client options perPage start page history m)
    (hstore : store.Sound) (first : 1 ≤ start)
    (tried : Tried client options perPage page tries events result)
    (outside : Outside store perPage page m m') :
    Behind store client options perPage start page (history ++ events) m' := by
  apply h.append
  · intro earlier before
    rw [asked_tried tried, if_neg (Nat.ne_of_gt before)]
  · exact not_refreshes_tried tried
  · intro earlier refused from_start before brought
    exact brought.outside hstore (Nat.le_trans first from_start) before outside

/-- A full sync that has come to a page, and has not read it yet. -/
structure Underway (store : Store.Memory) (client : Client) (options : SyncOptions)
    (perPage start page : Nat) (history : List Event) (m : Memory) : Prop
    extends Behind store client options perPage start page history m where
  sound : m.Sound
  unread : ∀ later, page ≤ later → asked later perPage history = 0

/-- Notes and progress read nothing. -/
theorem asked_note (call : e.1.isCall = false) (number : Nat) : asked number perPage [e] = 0 := by
  have unread : reads number perPage e.1 = false :=
    reads_of_prepares (fun isCall => by rw [call] at isCall; cases isCall) number
  simp [asked, unread]

/-- Notes and progress leave what is behind as it is. -/
theorem Behind.note (h : Behind store client options perPage start page history m)
    (call : e.1.isCall = false) :
    Behind store client options perPage start page (history ++ [e]) m := by
  refine h.append (fun earlier _ => asked_note call earlier) (fun e' mem => ?_) fun _ _ _ _ => id
  rw [List.mem_singleton.1 mem]
  cases effect : e.1 with
  | index call' => simp [effect, Effect.isCall] at call
  | _ => rfl

theorem Underway.note (h : Underway store client options perPage start page history m)
    (call : e.1.isCall = false) :
    Underway store client options perPage start page (history ++ [e]) m where
  toBehind := h.toBehind.note call
  sound := h.sound
  unread later beyond := by
    rw [asked_append, h.unread later beyond, asked_note call]

/-- After a page that was processed, it is the next one's turn. -/
theorem Underway.next (h : Underway store client options perPage start page history m)
    {summary : BulkSummary} (hstore : store.Sound) (first : 1 ≤ start)
    (tried : Tried client options perPage page tries events (.ok summary))
    (brought : Carried store perPage page (summary.errors.map (·.documentId)) m')
    (sound : m'.Sound) (outside : Outside store perPage page m m') :
    Underway store client options perPage start (page + 1) (history ++ events) m' where
  pages earlier from_start before := by
    rcases Nat.lt_succ_iff_lt_or_eq.1 before with before | rfl
    · exact (h.toBehind.tried hstore first tried outside).pages earlier from_start before
    · exact ⟨tries, summary, tried.worked (h.unread earlier (Nat.le_refl _)), brought⟩
  unrefreshed := (h.toBehind.tried hstore first tried outside).unrefreshed
  sound := sound
  unread later beyond := by
    rw [asked_append, h.unread later (by omega), asked_tried tried, if_neg (by omega)]

/-- A full sync that has given up a page. -/
structure GivesUp (store : Store.Memory) (client : Client) (options : SyncOptions)
    (perPage start page : Nat) (failure : Failure) (history : List Event) (m : Memory) : Prop
    extends Behind store client options perPage start page history m where
  attempts : ∃ tries given, Worked client options perPage page tries (.error given) history ∧
    failure = pageFailure page given
  unread : ∀ later, page < later → asked later perPage history = 0

theorem Underway.givesUp (h : Underway store client options perPage start page history m)
    {given : Retry.GivenUp} (hstore : store.Sound) (first : 1 ≤ start)
    (tried : Tried client options perPage page tries events (.error given))
    (outside : Outside store perPage page m m') :
    GivesUp store client options perPage start page (pageFailure page given) (history ++ events)
      m' where
  toBehind := h.toBehind.tried hstore first tried outside
  attempts := ⟨tries, given, tried.worked (h.unread page (Nat.le_refl _)), rfl⟩
  unread later beyond := by
    rw [asked_append, h.unread later (by omega), asked_tried tried, if_neg (by omega)]

theorem GivesUp.note {failure : Failure}
    (h : GivesUp store client options perPage start page failure history m)
    (call : e.1.isCall = false) :
    GivesUp store client options perPage start page failure (history ++ [e]) m where
  toBehind := h.toBehind.note call
  attempts := by
    obtain ⟨tries, given, worked, same⟩ := h.attempts
    exact ⟨tries, given, worked.append (asked_note call page), same⟩
  unread later beyond := by
    rw [asked_append, h.unread later beyond, asked_note call]

/-- A page that is retried changes nothing elsewhere; if it succeeds, it is brought over. -/
theorem retry_outside (client : Client) (options : SyncOptions) (hstore : store.Sound)
    (fits : store.records.length ≤ Store.wordLimit) (name : String) (page perPage : Nat)
    (history : List Event) (sound : m.Sound) :
    (Retry.run (pagePolicy options) name (syncPage client page perPage)).Ends
      (recorded (unreliable store)) (history, m) fun result w => ∃ tries events,
        w.1 = history ++ events ∧ Tried client options perPage page tries events result ∧
        w.2.Sound ∧ Outside store perPage page m w.2 ∧
        ∀ summary, result = .ok summary →
          Carried store perPage page (summary.errors.map (·.documentId)) w.2 := by
  let fact : Nat → Except Failure BulkSummary → Prop := fun _ _ => True
  let inv : Nat → Memory → Prop := fun _ m' => m'.Sound ∧ Outside store perPage page m m'
  let good : Nat → BulkSummary → Memory → Prop := fun k summary m' =>
    Carried store perPage page (summary.errors.map (·.documentId)) m' ∧ inv k m'
  have idle (k : Nat) : Idle (unreliable store) (inv k) :=
    ⟨fun _ _ _ _ step kept => step ▸ kept, fun _ _ _ _ step kept => step ▸ kept⟩
  have each (k : Nat) (m₁ : Memory) (kept : inv k m₁) :
      (syncPage client page perPage).Ends (unreliable store) m₁
        (fun summary m₂ => fact (k + 1) (.ok summary) ∧ good (k + 1) summary m₂)
        fun f m₂ => fact (k + 1) (.error f) ∧ inv (k + 1) m₂ :=
    (syncPage_outside client hstore fits kept.1).mono
      (fun _ _ post => ⟨trivial, post.1, post.2.1, kept.2.trans post.2.2⟩)
      fun _ _ post => ⟨trivial, post.1, kept.2.trans post.2⟩
  have start : inv 0 m := ⟨sound, fun _ _ => rfl⟩
  refine (Retry.attempts_ends idle each 0 options.maxRetries history start).mono ?_
  rintro result w ⟨tries, events, same, h⟩
  refine ⟨tries, events, same, h.toRetried, ?_⟩
  cases result with
  | ok summary =>
    obtain ⟨brought, sound', outside⟩ := h.good summary rfl
    exact ⟨sound', outside, fun _ same => Except.ok.inj same ▸ brought⟩
  | error given =>
    obtain ⟨sound', outside⟩ := h.inv given rfl
    exact ⟨sound', outside, nofun⟩

/-- The page loop comes to its end or gives up one of its pages. -/
theorem Underway.syncPages_ends (hstore : store.Sound)
    (fits : store.records.length ≤ Store.wordLimit) (first : 1 ≤ start) (total count : Nat)
    (totals : Totals) (h : Underway store client options perPage start page history m) :
    (syncPages client options perPage total count page totals).Ends (recorded (unreliable store))
      (history, m) (fun _ _ => True)
      fun f w => ∃ last, page ≤ last ∧ last < page + count ∧
        GivesUp store client options perPage start last f w.1 w.2 := by
  induction count generalizing page totals history m with
  | zero => trivial
  | succ count ih =>
    unfold syncPages
    refine (retry_outside client options hstore fits _ page perPage history
      h.sound).always_bind ?_
    rintro result ⟨_, m'⟩ ⟨tries, events, rfl, tried, sound, outside, brought⟩
    cases result with
    | error given =>
      refine (perform_unreliable rfl _ m').always_bind ?_
      rintro answer _ rfl
      refine ⟨page, Nat.le_refl page, by omega, ?_⟩
      exact (h.givesUp hstore first tried outside).note rfl
    | ok summary =>
      refine (perform_unreliable rfl _ m').always_bind ?_
      rintro answer _ rfl
      have next := h.next hstore first tried (brought summary rfl) sound outside
      refine (ih _ (next.note rfl)).mono (fun _ _ h => h) ?_
      rintro f w ⟨last, reached, within, givesUp⟩
      exact ⟨last, by omega, by omega, givesUp⟩

/-- What comes before the page loop reads no page, refreshes nothing, and is not its beginning. -/
structure Preliminary (perPage : Nat) (effect : Effect) : Prop where
  unread : ∀ page, reads page perPage effect = false
  unrefreshed : refreshes effect = false
  before : Phase.pageLoop.begins effect = false

theorem opens_preliminary (perPage : Nat) : Opens (Preliminary perPage) where
  note _ other := ⟨fun _ => rfl, rfl, decide_eq_false other⟩
  pause _ := ⟨fun _ => rfl, rfl, rfl⟩
  count := ⟨fun _ => rfl, rfl, rfl⟩
  «exists» := ⟨fun _ => rfl, rfl, rfl⟩
  create _ := ⟨fun _ => rfl, rfl, rfl⟩
  drop := ⟨fun _ => rfl, rfl, rfl⟩
  mapping := ⟨fun _ => rfl, rfl, rfl⟩
  deleteAll := ⟨fun _ => rfl, rfl, rfl⟩

/-- A run that has not come to its page loop. -/
structure Ready (perPage : Nat) (w : List Event × Memory) : Prop where
  preliminary : ∀ e ∈ w.1, Preliminary perPage e.1
  sound : w.2.Sound

variable {w w' : List Event × Memory}

theorem Ready.step (effect : Effect) (w : List Event × Memory) (answer : effect.Answer)
    (w' : List Event × Memory) (allowed : Preliminary perPage effect)
    (step : recorded (unreliable store) effect w answer w') (h : Ready perPage w) :
    Ready perPage w' where
  preliminary e mem := by
    rw [step.1] at mem
    rcases List.mem_append.1 mem with mem | mem
    · exact h.preliminary e mem
    · rw [List.mem_singleton.1 mem]
      exact allowed
  sound := unreliable_sound effect w.2 answer w'.2 step.2 h.sound

/-- What belongs to the beginning does not come to the page loop. -/
theorem Ready.ends {α : Type} {task : Task α} (h : Ready perPage w)
    (confined : task.Confined (Preliminary perPage)) :
    task.Ends (recorded (unreliable store)) w (fun _ => Ready perPage) fun _ => Ready perPage :=
  (Job.Confined.ends confined Ready.step h).mono fun outcome _ h =>
    match outcome with
    | .ok _ => h
    | .error _ => h

theorem Ready.entered (h : Ready perPage w) : Phase.pageLoop.entered w.1 = false := by
  rw [Phase.entered, List.any_eq_false]
  intro e mem
  rw [(h.preliminary e mem).before]
  exact Bool.false_ne_true

theorem Ready.underway (h : Ready perPage w) :
    Underway store client options perPage start start w.1 w.2 where
  pages earlier first before := by omega
  unrefreshed e mem := (h.preliminary e mem).unrefreshed
  sound := h.sound
  unread later _ := by
    apply List.countP_eq_zero.2
    intro e mem
    simp [(h.preliminary e mem).unread later]

/-- The records are counted, or the run stops. -/
theorem Ready.count_ends (h : Ready perPage w) :
    (Task.store .countAll).Ends (recorded (unreliable store)) w
      (fun n w' => n = store.records.length ∧ Ready perPage w') fun _ => Ready perPage := by
  rintro answer w' step
  have ready : Ready perPage w' :=
    Ready.step (.store .countAll) w answer w' ⟨fun _ => rfl, rfl, rfl⟩ step h
  obtain ⟨-, -, rfl | ⟨f, rfl⟩⟩ := step
  · exact ⟨rfl, ready⟩
  · exact ready

/-- Once the refresh has begun, it stays so. -/
theorem entered_refresh_ends {α : Type} (task : Task α)
    (begun : Phase.refresh.entered w.1 = true) {bad : Failure → List Event × Memory → Prop}
    (later : ∀ f w', Phase.refresh.entered w'.1 = true → bad f w') :
    task.Ends (recorded (unreliable store)) w (fun _ _ => True) bad := by
  have keeps (effect : Effect) (w : List Event × Memory) (answer : effect.Answer)
      (w' : List Event × Memory) (_ : True) (step : recorded (unreliable store) effect w answer w')
      (begun : Phase.refresh.entered w.1 = true) : Phase.refresh.entered w'.1 = true := by
    rw [step.1, Phase.entered_append, begun]
    rfl
  refine (Job.Confined.ends (Job.confined_true task.attempt) keeps begun).mono ?_
  rintro outcome w' begun
  cases outcome with
  | ok a => trivial
  | error f => exact later f w' begun

/-- A full sync whose page loop has begun but not ended has given up one of the pages. -/
theorem fullSync_givesUp (client : Client) (options : SyncOptions) (startPage perPage : Nat)
    (recreateSchema : Bool) (hstore : store.Sound)
    (fits : store.records.length ≤ Store.wordLimit) (sound : m.Sound) :
    (fullSync client options startPage perPage recreateSchema).Ends (recorded (unreliable store))
      ([], m) (fun _ _ => True)
      fun f w => Phase.pageLoop.entered w.1 = true → Phase.refresh.entered w.1 = false →
        ∃ page, max startPage 1 ≤ page ∧ page ≤ pageCount store.records.length perPage ∧
          GivesUp store client options perPage (max startPage 1) page f w.1 w.2 := by
  rcases Nat.eq_zero_or_pos perPage with rfl | some
  · exact fun begun => nomatch begun
  have opens := opens_preliminary perPage
  have ready : Ready perPage ([], m) := ⟨nofun, sound⟩
  have stops (f : Failure) (w : List Event × Memory) (h : Ready perPage w)
      (begun : Phase.pageLoop.entered w.1 = true) (_ : Phase.refresh.entered w.1 = false) :
      ∃ page, max startPage 1 ≤ page ∧ page ≤ pageCount store.records.length perPage ∧
        GivesUp store client options perPage (max startPage 1) page f w.1 w.2 := by
    rw [h.entered] at begun
    cases begun
  have note (phase : Phase) (other : phase ≠ .pageLoop) :
      (Task.always (enter phase)).Confined (Preliminary perPage) := by
    refine Task.confined_always (Job.confined_perform (opens.note _ ?_))
    cases phase <;> first | exact absurd rfl other | decide
  unfold fullSync
  rw [if_neg (by omega)]
  dsimp only
  refine (ready.ends (note .init nofun)).bind (fun _ w ready => ?_) stops
  refine (ready.ends (opens.countOrZero client)).bind (fun before w ready => ?_) stops
  refine opened_ends (fun _ => (ready.ends (opens.recreate client)).mono (fun _ _ h => h) stops)
    (fun _ => (ready.ends (opens.empty client)).mono (fun _ _ h => h) stops) ?_
  intro exact w ready
  refine ready.count_ends.withContext.bind ?_ stops
  rintro n ⟨history, m⟩ ⟨rfl, ready⟩
  refine (perform_unreliable rfl history m).always_bind ?_
  rintro _ _ rfl
  refine (perform_unreliable rfl _ m).always_bind ?_
  rintro _ _ rfl
  have underway (e₁ e₂ : Event) (call₁ : e₁.1.isCall = false) (call₂ : e₂.1.isCall = false) :
      Underway store client options perPage (max startPage 1) (max startPage 1)
        (history ++ [e₁] ++ [e₂]) m :=
    (ready.underway.note call₁).note call₂
  have first : 1 ≤ max startPage 1 := Nat.le_max_right startPage 1
  refine ((underway _ _ rfl rfl).syncPages_ends hstore fits first _ _ {}).bind ?_ ?_
  · rintro totals ⟨history, m⟩ -
    refine (perform_unreliable rfl history m).always_bind ?_
    rintro _ _ rfl
    have begun (answer : Unit) :
        Phase.refresh.entered (history ++ [⟨.log Phase.refresh.note, answer⟩]) = true := by
      simp [Phase.entered, Phase.begins]
    refine entered_refresh_ends _ (begun _) ?_
    intro f w entered _ unfinished
    rw [entered] at unfinished
    cases unfinished
  · rintro f w ⟨page, reached, within, givesUp⟩ _ _
    exact ⟨page, reached, by omega, givesUp⟩

/-- What a full sync has done that fails at a page with some errors. -/
structure Aborted (store : Store.Memory) (client : Client) (options : SyncOptions)
    (perPage start page : Nat) (errors : List Failure) (failure : Failure)
    (history : List Event) (m : Memory) : Prop
    extends Behind store client options perPage start page history m where
  /-- Every attempt at the page ended with one of the errors. -/
  attempts : ∃ tries given, Worked client options perPage page tries (.error given) history ∧
    tries.map (·.outcome) = errors.map .error
  often : asked page perPage history = errors.length
  few : errors.length ≤ options.maxRetries + 1
  /-- If all of them may pass, no retry was left. -/
  exhausted : (∀ e ∈ errors, options.classifier e = .retryable) →
    errors.length = options.maxRetries + 1 ∧
      ∃ f, errors.getLast? = some f ∧ failure = .retriesExhausted page errors.length f
  /-- Otherwise the last one, and only this, is fatal. -/
  fatal : (¬ ∀ e ∈ errors, options.classifier e = .retryable) →
    ∃ earlier f, errors = earlier ++ [f] ∧ options.classifier f = .fatal ∧
      (∀ e ∈ earlier, options.classifier e = .retryable) ∧ failure = .pageFailed page f
  unread : ∀ later, page < later → asked later perPage history = 0

theorem GivesUp.aborted {failure : Failure}
    (h : GivesUp store client options perPage start page failure history m) :
    ∃ errors, Aborted store client options perPage start page errors failure history m := by
  obtain ⟨tries, given, worked, rfl⟩ := h.attempts
  obtain ⟨before, events, after, -, tried⟩ := worked.part
  obtain ⟨earlier, f, outcomes, retryable, rfl, spent⟩ := tried.errors
  have count : tries.length = (earlier ++ [f]).length := by
    have lengths := congrArg List.length outcomes
    rwa [List.length_map, List.length_map] at lengths
  refine ⟨earlier ++ [f], h.toBehind, ⟨tries, _, worked, outcomes⟩, ?_, ?_, ?_, ?_, h.unread⟩
  · rw [worked.often, count]
  · rw [← count]
    exact tried.few
  · intro all
    have last : options.classifier f = .retryable := all f (by simp)
    refine ⟨count ▸ spent last, f, by simp, ?_⟩
    simp [pageFailure, pagePolicy, last, count]
  · intro some
    have last : options.classifier f = .fatal := by
      cases decision : options.classifier f with
      | fatal => rfl
      | retryable =>
        refine absurd (fun e mem => ?_) some
        rcases List.mem_append.1 mem with mem | mem
        · exact retryable e mem
        · rwa [List.mem_singleton.1 mem]
    refine ⟨earlier, f, rfl, last, retryable, ?_⟩
    simp [pageFailure, pagePolicy, last]

/-- However the calls of a full sync fail, if it fails in its page loop, it names a page: the pages
before it were processed and brought to the index, the page was attempted as often as the failure
says, with growing pauses, no later page was read, and the index was not refreshed. -/
theorem fullSync_aborted (fates : Nat → Fate) (client : Client) (options : SyncOptions)
    (startPage perPage : Nat) (recreateSchema : Bool) {index : Memory} (journal : Journal)
    (hstore : store.Sound) (fits : store.records.length ≤ Store.wordLimit) (sound : index.Sound)
    (small : options.maxRetries < 2 ^ 32 - 1) {failure : Failure}
    (failed : ((fullSync client options startPage perPage recreateSchema).attempt.run
      (struck fates Stage.handler) (0, calm store index journal)).1 = .error failure)
    (begun : Phase.pageLoop.entered
      ((fullSync client options startPage perPage recreateSchema).attempt.trace
        (struck fates Stage.handler) (0, calm store index journal)) = true)
    (unfinished : Phase.refresh.entered
      ((fullSync client options startPage perPage recreateSchema).attempt.trace
        (struck fates Stage.handler) (0, calm store index journal)) = false) :
    ∃ page errors m journal',
      ((fullSync client options startPage perPage recreateSchema).attempt.run
        (struck fates Stage.handler) (0, calm store index journal)).2.2 = calm store m journal' ∧
      max startPage 1 ≤ page ∧ page ≤ pageCount store.records.length perPage ∧
      errors.length < 2 ^ 32 ∧
      Aborted store client options perPage (max startPage 1) page errors failure
        ((fullSync client options startPage perPage recreateSchema).attempt.trace
          (struck fates Stage.handler) (0, calm store index journal)) m ∧
      ∀ retry, ((pagePolicy options).delay retry).nanos =
        min (options.retryBaseDelay.nanos * 2 ^ min (retry - 1) 30) (2 ^ 64 * 10 ^ 9 - 1) := by
  have ends := fullSync_givesUp client options startPage perPage recreateSchema hstore fits sound
  obtain ⟨m, ⟨journal', left⟩, post⟩ := Job.Ends.traced (struck_follows store fates)
    (s := (0, calm store index journal)) ⟨journal, rfl⟩ ends
  rw [failed, List.nil_append] at post
  obtain ⟨page, first, last, givesUp⟩ := post begun unfinished
  obtain ⟨errors, aborted⟩ := givesUp.aborted
  have few := aborted.few
  exact ⟨page, errors, m, journal', left, first, last, by omega, aborted,
    (pagePolicy options).delay_nanos⟩

/-- The fates by which both attempts at writing the second page time out. -/
def slowTwice (n : Nat) : Fate :=
  if n = 8 ∨ n = 10 then .refused (.timeout "slow") else .answered

/-- With one retry, the second of two pages is given up after two attempts. -/
theorem fullSync_aborted_second :
    ∃ errors m journal',
      ((fullSync {} { maxRetries := 1 } 0 1 false).attempt.run (struck slowTwice Stage.handler)
        (0, calm (.ofIds ["a", "b"]) {} {})).2.2 = calm (.ofIds ["a", "b"]) m journal' ∧
      errors.length = 2 ∧
      Aborted (.ofIds ["a", "b"]) {} { maxRetries := 1 } 1 1 2 errors
        (.retriesExhausted 2 2 (.timeout "slow"))
        ((fullSync {} { maxRetries := 1 } 0 1 false).attempt.trace (struck slowTwice Stage.handler)
          (0, calm (.ofIds ["a", "b"]) {} {})) m := by
  obtain ⟨page, errors, m, journal', left, -, -, -, aborted, -⟩ :=
    fullSync_aborted slowTwice {} { maxRetries := 1 } 0 1 false {}
      (Store.Memory.sound_ofIds ["a", "b"]) (by decide +kernel) Memory.sound_initial (by decide)
      (by decide +kernel : _ = Except.error (.retriesExhausted 2 2 (.timeout "slow")))
      (by decide +kernel) (by decide +kernel)
  by_cases all : ∀ e ∈ errors, ({ maxRetries := 1 } : SyncOptions).classifier e = .retryable
  · obtain ⟨count, f, -, named⟩ := aborted.exhausted all
    obtain rfl : 2 = page := (Failure.retriesExhausted.inj named).1
    exact ⟨errors, m, journal', left, count, aborted⟩
  · obtain ⟨earlier, f, -, -, -, named⟩ := aborted.fatal all
    cases named

end Sync

end CatalogSearch
