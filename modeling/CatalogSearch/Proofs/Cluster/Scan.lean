import CatalogSearch.Proofs.Cluster.Exchanges
import Mathlib.Data.List.Forall2
import Mathlib.Data.List.Infix

/-!
# The scan of all freshness

The scan asks for page after page until an empty one comes. Each request names the scroll that was
named last, and whatever happens to a page, the scroll that is then the newest one is released. The
main statement follows the scan through any number of full pages, to the empty page that ends it or
to the reply that breaks it.
-/
namespace CatalogSearch.Cluster.Backend

def hitsOf (page : Json) : Option (List Json) := (page.path? ["hits", "hits"]).bind Json.arr?

/-- A page with some hits on it. -/
def IsFull (page : Json) : Prop := ∃ hit hits, hitsOf page = some (hit :: hits)

def shown (page : Json) : List Freshness := ((hitsOf page).getD []).filterMap readFreshness

/-- The hit is that of a document; without freshness its date is `null` or absent. -/
structure Shows (hit : Json) (document : Freshness) : Prop where
  id : hit.get? "_id" = some (.str document.1)
  date : (hit.path? ["_source", "last_harvested_date"]).getD .null = Json.optional document.2

theorem readFreshness_of_shows {hit : Json} {document : Freshness} (shown : Shows hit document) :
    readFreshness hit = some document := by
  have text : ∀ value : Option Json, value.bind Json.str? = (value.getD .null).str? := by
    intro value
    cases value <;> rfl
  have back : ∀ date : Option String, (Json.optional date).str? = date := by
    intro date
    cases date <;> rfl
  rw [readFreshness, Json.get, shown.id, text, shown.date, back]
  rfl

theorem filterMap_of_shows {hits : List Json} {documents : List Freshness}
    (shown : List.Forall₂ Shows hits documents) : hits.filterMap readFreshness = documents := by
  induction shown with
  | nil => rfl
  | cons first later ih => rw [List.filterMap_cons, readFreshness_of_shows first, ih]

/-- The scroll that was named last. -/
def newest (named : List (Option String)) : Option String := (named.filterMap id).getLast?

theorem newest_concat (named : List (Option String)) (scroll : Option String) :
    newest (named ++ [scroll]) = scroll.or (newest named) := by
  cases scroll <;> simp [newest]

/-- Once the first page names a scroll, there is a newest one. -/
theorem isSome_newest {pages : List Json} (some : pages ≠ [])
    (names : ∀ first ∈ pages.head?, (scrollOf first).isSome) :
    (newest (pages.map scrollOf)).isSome := by
  obtain ⟨first, later, rfl⟩ := List.exists_cons_of_ne_nil some
  obtain ⟨scroll, named⟩ := Option.isSome_iff_exists.1 (names first rfl)
  simp [newest, named]

variable (b : Backend) (clock : Int)

/-- The request that opens a scan. -/
def opening : Request :=
  b.request .post (b.indexPath "/_search") [("scroll", scanKeepAlive)]
    (some (.json, (Dsl.freshnessBody scanPageSize).print)) clock

/-- The request for the next page of a scroll. -/
def continuation (scroll : String) : Request :=
  b.request .post "/_search/scroll" []
    (some (.json, (Json.object [("scroll", .str scanKeepAlive), ("scroll_id", .str scroll)]).print))
    clock

/-- The request that releases a scroll. -/
def closing (scroll : String) : Request :=
  b.request .delete "/_search/scroll" []
    (some (.json, (Json.object [("scroll_id", Json.strings [scroll])]).print)) clock

/-- The request for the page after some pages: it continues the scroll that they named last. -/
def pageRequest (before : List Json) : Request :=
  match newest (before.map scrollOf) with
  | none => b.opening clock
  | some scroll => b.continuation clock scroll

variable {b} {clock}

theorem pageRequest_of_newest {before : List Json} {scroll : String}
    (named : newest (before.map scrollOf) = some scroll) :
    b.pageRequest clock before = b.continuation clock scroll := by
  rw [pageRequest, named]

/-- The reply ends the scan with a failure. The last part is the scroll that it names all the
same. -/
inductive Breaks (request : Request) (reply : Reply) : Failure → Option String → Prop
  /-- The transport fails. -/
  | lost {failure : Failure} (fails : Exchange.outcome request reply = .error failure) :
      Breaks request reply failure none
  /-- The status is not one of success. -/
  | refused {status : Nat} {text : String} {error : IndexError}
      (comes : Exchange.outcome request reply = .ok (status, text))
      (reports : statusError? status text = some error) : Breaks request reply (.index error) none
  /-- The text is no JSON value. -/
  | unreadable {status : Nat} {text error : String}
      (comes : Exchange.outcome request reply = .ok (status, text))
      (reports : statusError? status text = none) (garbled : Json.parse text = .error error) :
      Breaks request reply (.malformed error) none
  /-- There is a value without hits. -/
  | hitless {body : Json} (brings : reply.Brings body) (bare : hitsOf body = none) :
      Breaks request reply (.malformed "scroll response has no hits") (scrollOf body)

/-- Every reply brings hits or breaks the scan. -/
theorem brings_or_breaks (request : Request) (reply : Reply) :
    (∃ body hits, reply.Brings body ∧ hitsOf body = some hits) ∨
      ∃ failure scroll, Breaks request reply failure scroll := by
  cases came : Exchange.outcome request reply with
  | error failure => exact .inr ⟨failure, none, .lost came⟩
  | ok answer =>
    obtain ⟨status, text⟩ := answer
    cases reported : statusError? status text with
    | some error => exact .inr ⟨_, none, .refused came reported⟩
    | none =>
      cases read : Json.parse text with
      | error garbled => exact .inr ⟨_, none, .unreadable came reported read⟩
      | ok body =>
        have brings : reply.Brings body := brings_of_outcome came reported read
        cases bare : hitsOf body with
        | none => exact .inr ⟨_, _, .hitless brings bare⟩
        | some hits => exact .inl ⟨body, hits, brings, bare⟩

/-- A reply that breaks a scan does so at once or by the page it brings. -/
theorem Breaks.received {request : Request} {reply : Reply} {failure : Failure}
    {scroll : Option String} (withBody : request.method ≠ .head)
    (breaks : Breaks request reply failure scroll) :
    (received request reply = .error failure ∧ scroll = none) ∨
      ∃ body, received request reply = .ok body ∧ hitsOf body = none ∧ scroll = scrollOf body ∧
        failure = .malformed "scroll response has no hits" := by
  cases breaks with
  | lost fails =>
    left
    rw [Cluster.received, fails]
    exact ⟨rfl, rfl⟩
  | refused comes reports =>
    left
    rw [Cluster.received, comes, Except.bind, valueOf, reports]
    exact ⟨rfl, rfl⟩
  | unreadable comes reports garbled =>
    left
    rw [Cluster.received, comes, Except.bind, valueOf, reports]
    dsimp only
    rw [garbled]
    exact ⟨rfl, rfl⟩
  | hitless brings bare =>
    right
    exact ⟨_, received_of_brings withBody brings, bare, rfl, rfl⟩

variable {link : Link} {page : Json}

theorem drain_empty (empty : hitsOf page = some []) (scroll : Option String)
    (found : List Freshness) (fuel : Nat) (link : Link) :
    (b.drain scroll found page (fuel + 1)).run link = ((.ok found, scroll), link) := by
  rw [drain, ← hitsOf, empty]
  rfl

theorem drain_hitless (bare : hitsOf page = none) (scroll : Option String)
    (found : List Freshness) (fuel : Nat) (link : Link) :
    (b.drain scroll found page (fuel + 1)).run link =
      ((.error (.malformed "scroll response has no hits"), scroll), link) := by
  rw [drain, ← hitsOf, bare]
  rfl

theorem sendable_continuation (sendable : Exchange.unsendable? (b.opening clock) = none)
    (scroll : String) : Exchange.unsendable? (b.continuation clock scroll) = none :=
  sendable_request sendable _ _ _ _

/-- A full page is kept, and the newest scroll is asked for the next one. -/
theorem drain_full {scroll : String} (full : IsFull page)
    (sendable : Exchange.unsendable? (b.continuation link.clock scroll) = none)
    (found : List Freshness) (fuel : Nat) :
    (b.drain (some scroll) found page (fuel + 1)).run link =
      match received (b.continuation link.clock scroll) (link.replies.headD link.otherwise) with
      | .error failure =>
        ((.error failure, some scroll), link.exchanged [b.continuation link.clock scroll])
      | .ok next =>
        (b.drain (some ((scrollOf next).getD scroll)) (found ++ shown page) next fuel).run
          (link.exchanged [b.continuation link.clock scroll]) := by
  obtain ⟨hit, hits, hitsEq⟩ := full
  have kept : (hit :: hits).filterMap readFreshness = shown page := by rw [shown, hitsEq]; rfl
  have asked : (b.nextPage scroll).run.run link =
      (received (b.continuation link.clock scroll) (link.replies.headD link.otherwise),
        link.exchanged [b.continuation link.clock scroll]) := run_believed_send sendable
  rw [drain, ← hitsOf, hitsEq]
  dsimp only
  rw [kept]
  rw [StateT.run_bind, asked]
  cases received (b.continuation link.clock scroll) (link.replies.headD link.otherwise) <;> rfl

/-- Reading from a full page through all full pages behind it. What comes then is the reply to the
request that is made when all of them are read. -/
theorem drain_pages {before : List Json} {later : List Json} {scroll : String}
    {replies tail : List Reply} (coming : link.replies = replies ++ tail)
    (sendable : Exchange.unsendable? (b.opening link.clock) = none)
    (named : newest (before.map scrollOf) = some scroll) (full : IsFull page)
    (fulls : ∀ p ∈ later, IsFull p) (brought : List.Forall₂ Reply.Brings replies later)
    (found : List Freshness) (fuel : Nat) :
    ∃ newer, newest ((before ++ later).map scrollOf) = some newer ∧
      (b.drain (some scroll) found page (later.length + 1 + fuel)).run link =
        match received (b.pageRequest link.clock (before ++ later)) (tail.headD link.otherwise) with
        | .error failure =>
          ((.error failure, some newer),
            link.exchanged (later.inits.map fun part => b.pageRequest link.clock (before ++ part)))
        | .ok next =>
          (b.drain (some ((scrollOf next).getD newer)) (found ++ (page :: later).flatMap shown)
            next fuel).run
            (link.exchanged (later.inits.map fun part =>
              b.pageRequest link.clock (before ++ part))) := by
  -- By induction on the pages behind `page`; `before` are the pages up to and with it.
  induction brought generalizing before scroll page found link with
  | nil =>
    have step := drain_full full (sendable_continuation sendable scroll) found fuel
    rw [coming, List.nil_append] at step
    refine ⟨scroll, by rwa [List.append_nil], ?_⟩
    rw [List.length_nil, Nat.zero_add, Nat.add_comm, step]
    simp [pageRequest_of_newest named]
  | @cons reply next replies later brings rest ih =>
    have step := drain_full full (sendable_continuation sendable scroll) found
      (later.length + 1 + fuel)
    rw [coming, List.cons_append, List.headD_cons,
      received_of_brings (by simp [continuation, request]) brings] at step
    have namedNext : newest ((before ++ [next]).map scrollOf) =
        some ((scrollOf next).getD scroll) := by
      rw [List.map_append, List.map_singleton, newest_concat, named]
      cases scrollOf next <;> rfl
    have coming' : (link.exchanged [b.continuation link.clock scroll]).replies =
        replies ++ tail := by
      simp [Link.exchanged, coming]
    obtain ⟨newer, newerEq, run⟩ := ih coming' sendable namedNext (fulls next List.mem_cons_self)
      (fun p mem => fulls p (List.mem_cons_of_mem next mem)) (found ++ shown page)
    refine ⟨newer, by simpa using newerEq, ?_⟩
    have length : (next :: later).length + 1 + fuel = later.length + 1 + fuel + 1 := by
      rw [List.length_cons]
      omega
    have requests :
        ((next :: later).inits.map fun part => b.pageRequest link.clock (before ++ part)) =
        b.continuation link.clock scroll ::
          later.inits.map fun part => b.pageRequest link.clock (before ++ [next] ++ part) := by
      simp [pageRequest_of_newest named, Function.comp_def]
    rw [length, step, requests]
    dsimp only
    rw [run]
    simp only [Link.exchanged_append, List.append_assoc, List.flatMap_cons, List.singleton_append]
    rfl

/-- The release leaves whatever becomes of it. -/
theorem run_release {scroll : String}
    (sendable : Exchange.unsendable? (b.closing link.clock scroll) = none) :
    ((b.release scroll).run.run link).1 = .ok () ∧
      ((b.release scroll).run.run link).2.sent = link.sent ++ [b.closing link.clock scroll] := by
  have asked : (b.sendJson .delete "/_search/scroll" []
      (some (Json.object [("scroll_id", Json.strings [scroll])]))).run.run link =
      (received (b.closing link.clock scroll) (link.replies.headD link.otherwise),
        link.exchanged [b.closing link.clock scroll]) := run_believed_send sendable
  rw [release, Exchange.run_bind, ExceptT.run_lift]
  rw [StateT.run_map, asked]
  cases received (b.closing link.clock scroll) (link.replies.headD link.otherwise) <;>
    exact ⟨rfl, rfl⟩

/-- The first page is asked for. -/
theorem run_opening (sendable : Exchange.unsendable? (b.opening link.clock) = none) :
    (b.sendJson .post (b.indexPath "/_search") [("scroll", scanKeepAlive)]
        (some (Dsl.freshnessBody scanPageSize))).run.run link =
      (received (b.opening link.clock) (link.replies.headD link.otherwise),
        link.exchanged [b.opening link.clock]) :=
  run_believed_send sendable

theorem run_scan_error {failure : Failure}
    (sendable : Exchange.unsendable? (b.opening link.clock) = none)
    (lost : received (b.opening link.clock) (link.replies.headD link.otherwise) = .error failure) :
    b.scan.run.run link = (.error failure, link.exchanged [b.opening link.clock]) := by
  rw [scan, Exchange.run_bind, run_opening sendable, lost]

/-- After the first page the scan is the reading of all pages and the release of the scroll that
the reading leaves. -/
theorem run_scan_ok {first : Json} {result : Except Failure (List Freshness)}
    {scroll : Option String} {after : Link}
    (sendable : Exchange.unsendable? (b.opening link.clock) = none)
    (brought : received (b.opening link.clock) (link.replies.headD link.otherwise) = .ok first)
    (drained : (b.drain (scrollOf first) [] first (link.replies.tail.length + 1)).run
      (link.exchanged [b.opening link.clock]) = ((result, scroll), after))
    (still : after.clock = link.clock) :
    (b.scan.run.run link).1 = result ∧
      (b.scan.run.run link).2.sent =
        after.sent ++ (scroll.map (b.closing link.clock)).toList := by
  have state : (get : Exchange Link).run.run (link.exchanged [b.opening link.clock]) =
      (.ok (link.exchanged [b.opening link.clock]), link.exchanged [b.opening link.clock]) := rfl
  have length : (link.exchanged [b.opening link.clock]).replies = link.replies.tail := by
    rw [Link.exchanged, List.length_singleton, List.drop_one]
  rw [scan, Exchange.run_bind, run_opening sendable, brought]
  dsimp only
  rw [Exchange.run_bind, state]
  dsimp only
  rw [length, Exchange.run_bind, ExceptT.run_lift, StateT.run_map, drained]
  cases scroll with
  | none => exact ⟨rfl, (List.append_nil _).symm⟩
  | some scroll =>
    have closable : Exchange.unsendable? (b.closing after.clock scroll) = none := by
      rw [still]
      exact sendable_request sendable _ _ _ _
    obtain ⟨done, sent⟩ := run_release closable
    rw [still] at sent
    change ((b.release scroll >>= fun _ => ExceptT.mk (pure result)).run.run after).1 = result ∧
      ((b.release scroll >>= fun _ => ExceptT.mk (pure result)).run.run after).2.sent = _
    rw [Exchange.run_bind]
    generalize (b.release scroll).run.run after = finished at done sent ⊢
    obtain ⟨answer, later⟩ := finished
    cases done
    exact ⟨rfl, sent⟩

variable {pages : List Json} {replies tail : List Reply}

/-- The scan up to the reply that follows the full pages. -/
theorem scan_pages {reply : Reply} (result : Except Failure (List Freshness))
    (scroll : Option String) (sendable : Exchange.unsendable? (b.opening link.clock) = none)
    (names : ∀ first ∈ pages.head?, (scrollOf first).isSome) (fulls : ∀ p ∈ pages, IsFull p)
    (brought : List.Forall₂ Reply.Brings replies pages)
    (coming : link.replies = replies ++ reply :: tail)
    (ending : (∃ failure, received (b.pageRequest link.clock pages) reply = .error failure ∧
          result = .error failure ∧ scroll = none) ∨
      ∃ next, received (b.pageRequest link.clock pages) reply = .ok next ∧ scroll = scrollOf next ∧
        ∀ named fuel after, (b.drain named (pages.flatMap shown) next (fuel + 1)).run after =
          ((result, named), after)) :
    (b.scan.run.run link).1 = result ∧
      (b.scan.run.run link).2.sent =
        link.sent ++ pages.inits.map (b.pageRequest link.clock) ++
          ((newest (pages.map scrollOf ++ [scroll])).map (b.closing link.clock)).toList := by
  cases brought with
  | nil =>
    have here : reply = link.replies.headD link.otherwise := by simp [coming]
    rcases ending with ⟨failure, lost, rfl, rfl⟩ | ⟨next, answered, rfl, ends⟩
    · rw [here] at lost
      rw [run_scan_error sendable lost]
      simp [newest, pageRequest, Link.exchanged]
    · rw [here] at answered
      have ends := run_scan_ok sendable answered (ends _ _ _) rfl
      simpa [newest_concat, newest, pageRequest, Link.exchanged] using ends
  | @cons opened first rest later brings brought =>
    obtain ⟨named, namedEq⟩ := Option.isSome_iff_exists.1 (names first rfl)
    have answered : received (b.opening link.clock) (link.replies.headD link.otherwise) =
        .ok first := by
      rw [coming]
      exact received_of_brings (by simp [opening, request]) brings
    have coming' : (link.exchanged [b.opening link.clock]).replies = rest ++ reply :: tail := by
      simp [Link.exchanged, coming]
    have namedFirst : newest ([first].map scrollOf) = some named := by simp [newest, namedEq]
    obtain ⟨newer, newerEq, run⟩ := drain_pages coming' sendable namedFirst
      (fulls first List.mem_cons_self) (fun p mem => fulls p (List.mem_cons_of_mem first mem))
      brought [] (tail.length + 1)
    have fuel : link.replies.tail.length + 1 = later.length + 1 + (tail.length + 1) := by
      have lengths := brought.length_eq
      simp only [coming, List.cons_append, List.tail_cons, List.length_append, List.length_cons]
      omega
    have requests : [b.opening link.clock] ++
          (later.inits.map fun part => b.pageRequest link.clock ([first] ++ part)) =
        (first :: later).inits.map (b.pageRequest link.clock) := by
      simp [pageRequest, newest, Function.comp_def]
    rw [Link.exchanged_append, Link.clock_exchanged, requests, ← fuel, ← namedEq, List.nil_append,
      List.headD_cons, List.singleton_append] at run
    rw [List.singleton_append] at newerEq
    rcases ending with ⟨failure, lost, rfl, rfl⟩ | ⟨next, answered', rfl, ends⟩
    · rw [lost] at run
      have ends := run_scan_ok sendable answered run rfl
      rwa [newest_concat, newerEq]
    · rw [answered'] at run
      dsimp only at run
      rw [ends] at run
      have ends := run_scan_ok sendable answered run rfl
      rwa [newest_concat, newerEq, Option.or_some]

/-- The scan of full pages and an empty one finds all documents that they show; a reply that breaks
the scan is its result. Either way every request continues the scroll that was named last, and the
last request releases the newest one, whatever becomes of that request. -/
theorem scan_reads_and_releases {reply : Reply}
    (sendable : Exchange.unsendable? (b.opening link.clock) = none)
    (fulls : ∀ page ∈ pages, IsFull page) (brought : List.Forall₂ Reply.Brings replies pages)
    (coming : link.replies = replies ++ reply :: tail) :
    (∀ last documents, reply.Brings last → hitsOf last = some [] →
      (∀ first ∈ (pages ++ [last]).head?, (scrollOf first).isSome) →
      List.Forall₂ Shows (pages.flatMap fun page => (hitsOf page).getD []) documents →
      ∃ scroll, newest ((pages ++ [last]).map scrollOf) = some scroll ∧
        (b.scan.run.run link).1 = .ok documents ∧
        (b.scan.run.run link).2.sent =
          link.sent ++ pages.inits.map (b.pageRequest link.clock) ++
            [b.closing link.clock scroll]) ∧
    (∀ failure scroll, Breaks (b.pageRequest link.clock pages) reply failure scroll →
      (∀ first ∈ pages.head?, (scrollOf first).isSome) →
      (b.scan.run.run link).1 = .error failure ∧
        (b.scan.run.run link).2.sent =
          link.sent ++ pages.inits.map (b.pageRequest link.clock) ++
            ((newest (pages.map scrollOf ++ [scroll])).map (b.closing link.clock)).toList ∧
        (pages ≠ [] → (newest (pages.map scrollOf ++ [scroll])).isSome)) := by
  have posted : (b.pageRequest link.clock pages).method ≠ .head := by
    unfold pageRequest
    split <;> simp [opening, continuation, request]
  constructor
  · intro last documents brings empty names shown
    have known : (newest ((pages ++ [last]).map scrollOf)).isSome :=
      isSome_newest (by simp) names
    obtain ⟨scroll, scrollEq⟩ := Option.isSome_iff_exists.1 known
    have read : pages.flatMap Backend.shown = documents := by
      rw [show Backend.shown = fun page => ((hitsOf page).getD []).filterMap readFreshness from rfl,
        ← List.filterMap_flatMap]
      exact filterMap_of_shows shown
    have run := scan_pages (.ok documents) (scrollOf last) sendable
      (fun first mem => names first (by rw [List.head?_append, mem]; rfl)) fulls brought coming
      (.inr ⟨last, received_of_brings posted brings, rfl, read ▸ fun named =>
        drain_empty empty named _⟩)
    rw [List.map_append, List.map_singleton] at scrollEq
    rw [scrollEq] at run
    exact ⟨scroll, by rw [List.map_append, List.map_singleton, scrollEq], run⟩
  · intro failure scroll breaks names
    have run := scan_pages (.error failure) scroll sendable names fulls brought coming (by
      rcases breaks.received posted with ⟨lost, rfl⟩ | ⟨body, answered, bare, rfl, rfl⟩
      · exact .inl ⟨failure, lost, rfl, rfl⟩
      · exact .inr ⟨body, answered, rfl, fun named => drain_hitless bare named _⟩)
    refine ⟨run.1, run.2, fun some => ?_⟩
    have known := isSome_newest some names
    rw [newest_concat]
    simp [known]

/-- One page of two documents, an empty page that names a new scroll, and a release that fails; then
the same scan with its second reply lost. -/
theorem scan_reads_and_releases_two :
    ∃ (b : Backend) (whole broken : Link),
      (b.scan.run.run whole).1 = .ok [("a", none), ("b", some "2024")] ∧
      (b.scan.run.run whole).2.sent =
        [b.opening 0, b.continuation 0 "s", b.closing 0 "t"] ∧
      (b.scan.run.run broken).1 = .error (.unavailable "error decoding response body") ∧
      (b.scan.run.run broken).2.sent =
        [b.opening 0, b.continuation 0 "s", b.closing 0 "s"] := by
  let page : Json := Json.object [("_scroll_id", .str "s"), ("hits", Json.object [("hits", .arr
    [Json.object [("_id", .str "a")], Json.object [("_id", .str "b"),
      ("_source", Json.object [("last_harvested_date", .str "2024")])]])])]
  let last : Json :=
    Json.object [("_scroll_id", .str "t"), ("hits", Json.object [("hits", .arr [])])]
  let filled : Reply := .answer 200
    ("\x7b\"_scroll_id\":\"s\",\"hits\":\x7b\"hits\":[\x7b\"_id\":\"a\"\x7d,\x7b\"_id\":\"b\"," ++
      "\"_source\":\x7b\"last_harvested_date\":\"2024\"\x7d\x7d]\x7d\x7d")
  let empty : Reply := .answer 200
    "\x7b\"_scroll_id\":\"t\",\"hits\":\x7b\"hits\":[]\x7d\x7d"
  let b : Backend := ⟨{ scheme := "http", host := some "localhost" }, "datasets", .anonymous⟩
  have opened : filled.Brings page := ⟨200, _, rfl, rfl, by decide, rfl⟩
  have ended : empty.Brings last := ⟨200, _, rfl, rfl, by decide, rfl⟩
  have full : ∀ p ∈ [page], IsFull p := List.forall_mem_singleton.2 ⟨_, _, rfl⟩
  have names : ∀ p ∈ [page].head?, (scrollOf p).isSome := by
    rintro p ⟨⟩
    rfl
  obtain ⟨scroll, newestEq, result, sent⟩ :=
    (scan_reads_and_releases (b := b) (by rfl) full (.cons opened .nil)
      (rfl : ({ replies := [filled, empty, .dropped] } : Link).replies =
        [filled] ++ empty :: [.dropped])).1
      last [("a", none), ("b", some "2024")] ended rfl names
      (.cons ⟨rfl, rfl⟩ (.cons ⟨rfl, rfl⟩ .nil))
  obtain ⟨lost, released, -⟩ :=
    (scan_reads_and_releases (b := b) (by rfl) full (.cons opened .nil)
      (rfl : ({ replies := [filled, .cut] } : Link).replies = [filled] ++ .cut :: [])).2
      _ none (.lost rfl) names
  cases newestEq
  exact ⟨b, _, _, result, sent, lost, released⟩

end CatalogSearch.Cluster.Backend
