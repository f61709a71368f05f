import CatalogSearch.Cluster.Backend
import Mathlib

/-!
# Exchanges with a cluster

What a request and its reply come to. Whether a request can leave at all is for the way to the
cluster to say, and not for the request: a backend can send all of its requests or none.
-/
namespace CatalogSearch.Cluster

namespace Exchange

theorem run_bind {α β : Type} (x : Exchange α) (f : α → Exchange β) (link : Link) :
    (x >>= f).run.run link =
      match x.run.run link with
      | (.ok a, after) => (f a).run.run after
      | (.error failure, after) => (.error failure, after) := by
  change (match x.run.run link with | (answer, after) => (ExceptT.bindCont f answer).run after) = _
  rcases x.run.run link with ⟨answer, after⟩
  cases answer <;> rfl

/-- What happens to the link in a first step stays when the second leaves it alone. -/
theorem run_bind_snd {α β : Type} {x : Exchange α} {f : α → Exchange β}
    (quiet : ∀ a link, ((f a).run.run link).2 = link) (link : Link) :
    ((x >>= f).run.run link).2 = (x.run.run link).2 := by
  rw [run_bind]
  rcases x.run.run link with ⟨answer, after⟩
  cases answer with
  | ok a => exact quiet a after
  | error failure => rfl

theorem run_send {request : Request} (sendable : unsendable? request = none) (link : Link) :
    (send request).run.run link =
      (outcome request (link.replies.headD link.otherwise),
        { link with replies := link.replies.tail, sent := link.sent ++ [request] }) := by
  have state : (get : Exchange Link).run.run link = (.ok link, link) := rfl
  rw [send, sendable]
  dsimp only
  rw [run_bind, state]
  dsimp only
  rw [run_bind]
  cases outcome request (link.replies.headD link.otherwise) <;> rfl

/-- A request leaves unless it cannot be sent at all. -/
theorem sent_send (request : Request) (link : Link) :
    ((send request).run.run link).2.sent =
      link.sent ++ (if unsendable? request = none then [request] else []) := by
  split
  · rename_i sendable
    rw [run_send sendable]
  · rename_i stuck
    obtain ⟨text, htext⟩ := Option.ne_none_iff_exists'.1 stuck
    rw [send, htext, List.append_nil]
    rfl

theorem host_of_sendable {request : Request} (sendable : unsendable? request = none) :
    request.url.host ≠ none := by
  intro none
  simp [unsendable?, none] at sendable

end Exchange

/-- An answer of success whose text is a JSON value. -/
def Reply.Brings (reply : Reply) (body : Json) : Prop :=
  ∃ status text, reply = .answer status text ∧ isSuccess status = true ∧ status ≠ 204 ∧
    Json.parse text = .ok body

/-- The link after some requests left and their replies came. -/
def Link.exchanged (link : Link) (requests : List Request) : Link :=
  { link with replies := link.replies.drop requests.length, sent := link.sent ++ requests }

@[simp] theorem Link.clock_exchanged (link : Link) (requests : List Request) :
    (link.exchanged requests).clock = link.clock := rfl

theorem Link.exchanged_append (link : Link) (first later : List Request) :
    (link.exchanged first).exchanged later = link.exchanged (first ++ later) := by
  simp [exchanged]

/-- The value that an answer is believed to bring. -/
def valueOf (answer : Nat × String) : Except Failure Json :=
  match statusError? answer.1 answer.2 with
  | some error => .error (.index error)
  | none => (Json.parse answer.2).mapError .malformed

/-- What a request for a JSON value comes to. -/
def received (request : Request) (reply : Reply) : Except Failure Json :=
  (Exchange.outcome request reply).bind valueOf

theorem received_of_brings {request : Request} {reply : Reply} {body : Json}
    (withBody : request.method ≠ .head) (brings : reply.Brings body) :
    received request reply = .ok body := by
  obtain ⟨status, text, rfl, success, filled, read⟩ := brings
  have bounds : 200 ≤ status ∧ status < 300 := by simpa [isSuccess] using success
  have bodied : Exchange.isBodiless request.method status = false := by
    simp only [Exchange.isBodiless, Bool.or_eq_false_iff, decide_eq_false_iff_not]
    exact ⟨⟨withBody, filled⟩, by omega⟩
  have calm : statusError? status text = none := by rw [statusError?, if_pos success]
  simp [received, Exchange.outcome, bodied, Except.bind, valueOf, calm, read, Except.mapError]

/-- A value that is read and believed came in a text of its own. -/
theorem brings_of_outcome {request : Request} {reply : Reply} {status : Nat} {text : String}
    {body : Json} (came : Exchange.outcome request reply = .ok (status, text))
    (calm : statusError? status text = none) (read : Json.parse text = .ok body) :
    reply.Brings body := by
  have success : isSuccess status = true := by
    unfold statusError? at calm
    split at calm
    · assumption
    · repeat' split at calm
      all_goals cases calm
  have nothing : ∀ body, Json.parse "" ≠ .ok body := by
    intro body read
    cases read
  cases reply with
  | answer given whole =>
    simp only [Exchange.outcome, Except.ok.injEq, Prod.mk.injEq] at came
    obtain ⟨rfl, rfl⟩ := came
    have texted : Exchange.isBodiless request.method given = false := by
      rw [Bool.eq_false_iff]
      intro bodiless
      rw [if_pos bodiless] at read
      exact nothing body read
    have filled : given ≠ 204 := by
      rintro rfl
      simp [Exchange.isBodiless] at texted
    rw [if_neg (by simp [texted])] at read
    exact ⟨given, whole, rfl, success, filled, read⟩
  | dropped => cases came
  | timedOut => cases came
  | cut => cases came
  | stalled => cases came

namespace Exchange

/-- Can a text stand as the value of a header? -/
def isHeaderText (s : String) : Bool := s.toList.all isHeaderChar

/-- Does a request carry a header that cannot be sent? -/
def isUnfit : Authorization → Bool
  | .signed signature => signature.headers.any fun h => !isHeaderText h.2
  | _ => false

theorem isHeaderText_append (s t : String) :
    isHeaderText (s ++ t) = (isHeaderText s && isHeaderText t) := by
  rw [isHeaderText, String.toList_append, List.all_append]
  rfl

theorem unsendable?_eq_none_iff (request : Request) :
    unsendable? request = none ↔ request.url.host.isNone = false ∧
      isUnfit request.authorization = false ∧
      (request.url.scheme = "http" ∨ request.url.scheme = "https") := by
  have shape : unsendable? request =
      if request.url.host.isNone then some s!"builder error for url ({request.url.text})"
      else if isUnfit request.authorization then some "builder error"
      else if request.url.scheme ≠ "http" && request.url.scheme ≠ "https" then
        some s!"builder error for url ({request.url.text})"
      else none := rfl
  rw [shape]
  cases request.url.host.isNone with
  | true => simp
  | false =>
    cases isUnfit request.authorization with
    | true => simp
    | false => simp [Decidable.or_iff_not_imp_left]

theorem isHeaderChar_lowerHexDigit {n : Nat} (digit : n < 16) :
    isHeaderChar (Text.lowerHexDigit n) = true := by
  have all : ∀ n < 16, isHeaderChar (Text.lowerHexDigit n) = true := by decide
  exact all n digit

theorem isHeaderText_lowerHex (bytes : List UInt8) :
    isHeaderText (Text.lowerHex bytes) = true := by
  rw [isHeaderText, Text.lowerHex, String.toList_ofList, List.all_eq_true]
  intro c mem
  obtain ⟨b, -, mem⟩ := List.mem_flatMap.1 mem
  have bound := b.toNat_lt
  simp only [List.mem_cons, List.not_mem_nil, or_false] at mem
  rcases mem with rfl | rfl
  · exact isHeaderChar_lowerHexDigit (by omega)
  · exact isHeaderChar_lowerHexDigit (by omega)

/-- Which headers are signed does not depend on what they hold. -/
theorem names_headersToSign (creds : Credentials) (host digest time : String) :
    (Signature.headersToSign creds host digest time).map (·.1) =
      (Signature.headersToSign creds "" "" "").map (·.1) := by
  unfold Signature.headersToSign
  cases creds.sessionToken <;> rfl

/-- The signature itself and the digest of the body are written in plain digits, so that they do
not matter here. -/
theorem isUnfit_signed {s : Signature} (value : isHeaderText s.value = true)
    (digest : isHeaderText s.payloadDigest = true) :
    isUnfit (.signed s) = isUnfit (.signed { s with value := "", payloadDigest := "" }) := by
  have none : isHeaderText "" = true := by simp [isHeaderText]
  unfold isUnfit
  dsimp only
  unfold Signature.headers Signature.authorization
  dsimp only
  simp only [List.any_append, List.any_cons, toString, isHeaderText_append]
  simp only [value, digest, none]

theorem isHeaderText_sign (creds : Credentials) (region : String) (request : SigningRequest)
    (clock : Int) :
    isHeaderText (Signature.sign creds region request clock).value = true ∧
      isHeaderText (Signature.sign creds region request clock).payloadDigest = true := by
  unfold Signature.sign Digest.sha256Hex
  exact ⟨isHeaderText_lowerHex _, isHeaderText_lowerHex _⟩

/-- All else that a signature holds is the same for every request. -/
theorem isUnfit_sign (creds : Credentials) (region : String) (request request' : SigningRequest)
    (clock : Int) :
    isUnfit (.signed (Signature.sign creds region request clock)) =
      isUnfit (.signed (Signature.sign creds region request' clock)) := by
  have fit := isHeaderText_sign creds region request clock
  have fit' := isHeaderText_sign creds region request' clock
  have same : { Signature.sign creds region request clock with value := "", payloadDigest := "" } =
      { Signature.sign creds region request' clock with value := "", payloadDigest := "" } := by
    unfold Signature.sign
    dsimp only
    rw [names_headersToSign creds request.host, names_headersToSign creds request'.host]
  calc isUnfit (.signed (Signature.sign creds region request clock))
      = isUnfit (.signed { Signature.sign creds region request clock with
          value := "", payloadDigest := "" }) := isUnfit_signed fit.1 fit.2
    _ = isUnfit (.signed { Signature.sign creds region request' clock with
          value := "", payloadDigest := "" }) := by rw [same]
    _ = isUnfit (.signed (Signature.sign creds region request' clock)) :=
        (isUnfit_signed fit'.1 fit'.2).symm

end Exchange

namespace Backend

theorem isUnfit_authorize (b : Backend) (method method' : Method)
    (path path' query query' body body' : String) (clock : Int) :
    Exchange.isUnfit (b.authorize method path query body clock) =
      Exchange.isUnfit (b.authorize method' path' query' body' clock) := by
  unfold authorize
  cases b.access with
  | anonymous => rfl
  | basic user password => rfl
  | signing credentials region => exact Exchange.isUnfit_sign credentials region _ _ clock

/-- Every request goes where the backend is. -/
theorem url_request (b : Backend) (method : Method) (path : String)
    (params : List (String × String)) (body : Option (ContentType × String)) (clock : Int) :
    (b.request method path params body clock).url.host = b.base.host ∧
      (b.request method path params body clock).url.scheme = b.base.scheme := by
  unfold request Url.setQuery Url.setPath
  dsimp only
  split <;> exact ⟨rfl, rfl⟩

variable {b : Backend} {clock : Int}

/-- A backend that can send one request can send every other one. -/
theorem sendable_request {method : Method} {path : String} {params : List (String × String)}
    {body : Option (ContentType × String)}
    (sendable : Exchange.unsendable? (b.request method path params body clock) = none)
    (method' : Method) (path' : String) (params' : List (String × String))
    (body' : Option (ContentType × String)) :
    Exchange.unsendable? (b.request method' path' params' body' clock) = none := by
  rw [Exchange.unsendable?_eq_none_iff] at sendable ⊢
  obtain ⟨host, fit, scheme⟩ := sendable
  have here := b.url_request method path params body clock
  have there := b.url_request method' path' params' body' clock
  refine ⟨?_, ?_, ?_⟩
  · rw [there.1, ← here.1]
    exact host
  · exact (isUnfit_authorize b method' method path' path _ _ _ _ clock).trans fit
  · rw [there.2, ← here.2]
    exact scheme

theorem run_believed (answer : Nat × String) (link : Link) :
    (believed answer).run.run link = (valueOf answer, link) := by
  unfold believed valueOf
  cases statusError? answer.1 answer.2 with
  | some error => rfl
  | none => cases Json.parse answer.2 <;> rfl

theorem run_send {method : Method} {path : String} {params : List (String × String)}
    {body : Option (ContentType × String)} {link : Link}
    (sendable : Exchange.unsendable? (b.request method path params body link.clock) = none) :
    (b.send method path params body).run.run link =
      (Exchange.outcome (b.request method path params body link.clock)
          (link.replies.headD link.otherwise),
        link.exchanged [b.request method path params body link.clock]) := by
  have state : (get : Exchange Link).run.run link = (.ok link, link) := rfl
  rw [send, Exchange.run_bind, state]
  dsimp only
  rw [Exchange.run_send sendable, Link.exchanged, List.length_singleton, List.drop_one]

/-- A request for a JSON value comes to what its reply brings. -/
theorem run_believed_send {method : Method} {path : String} {params : List (String × String)}
    {body : Option (ContentType × String)} {link : Link}
    (sendable : Exchange.unsendable? (b.request method path params body link.clock) = none) :
    (b.send method path params body >>= believed).run.run link =
      (received (b.request method path params body link.clock)
          (link.replies.headD link.otherwise),
        link.exchanged [b.request method path params body link.clock]) := by
  rw [Exchange.run_bind, run_send sendable, received]
  cases Exchange.outcome (b.request method path params body link.clock)
    (link.replies.headD link.otherwise) with
  | error failure => rfl
  | ok answer => exact run_believed answer _

end Backend

end CatalogSearch.Cluster
