import CatalogSearch.Proofs.Cluster.Exchanges
import CatalogSearch.Proofs.Text.PercentCoding
import CatalogSearch.Proofs.Text.Pieces

/-!
# The path of a document

A request for one document goes to the index's name, `_doc` and the document's id, each coded. The
coding leaves dots alone, so an id that is a dot segment is resolved away with the segments above
it. The main statement says that these two ids are the only ones that address anything else.
-/
namespace CatalogSearch

open Text

namespace Url

/-- Writing segments behind slashes and reading them back changes nothing. -/
theorem segmentsOf_pathOf {segments : List String} (some : segments ≠ [])
    (whole : ∀ s ∈ segments, '/' ∉ s.toList) : segmentsOf (pathOf segments) = segments := by
  have split : pieces (· = '/') (['/'].intercalate (segments.map String.toList)) =
      segments.map String.toList := by
    refine pieces_intercalate (by simpa using some) (fun part mem c hc => ?_) (by decide)
    obtain ⟨s, inside, rfl⟩ := List.mem_map.1 mem
    rw [decide_eq_false_iff_not]
    rintro rfl
    exact whole s inside hc
  have behind : (pathOf segments).toList.drop 1 =
      ['/'].intercalate (segments.map String.toList) := by
    rw [pathOf, String.toList_append, String.toList_intercalate]
    rfl
  rw [segmentsOf, behind, split, List.map_map]
  simp

theorem toLower_eq {c d : Char} (lower : c.toLower = d) :
    c = d ∨ (97 ≤ d.toNat ∧ d.toNat = c.toNat + 32) := by
  unfold Char.toLower at lower
  split at lower
  · rename_i upper
    right
    have first : 65 ≤ c.toNat := UInt32.le_iff_toNat_le.1 upper.1
    have last : c.toNat ≤ 90 := UInt32.le_iff_toNat_le.1 upper.2
    have code : d.toNat = c.toNat + 32 := by
      have wrapped : d.toNat = (c.toNat + 32) % 2 ^ 32 := by rw [← lower]; rfl
      omega
    exact ⟨by omega, code⟩
  · exact .inl lower

/-- A dot, written as it is, reads back as the byte of a dot. -/
theorem uriDecode_dot {s t : List Char} (lower : s.map Char.toLower = '.' :: t) :
    ∃ rest, rest.map Char.toLower = t ∧ uriDecode s = 46 :: uriDecode rest := by
  obtain ⟨c, rest, rfl, hc, ht⟩ := List.map_eq_cons_iff.1 lower
  have dot : c = '.' := (toLower_eq hc).resolve_right fun h => absurd h.1 (by decide)
  subst dot
  exact ⟨rest, ht, uriDecode_encodeByte 46 rest⟩

/-- A dot, coded in either case, reads back as the byte of a dot. -/
theorem uriDecode_coded_dot {s t : List Char}
    (lower : s.map Char.toLower = '%' :: '2' :: 'e' :: t) :
    ∃ rest, rest.map Char.toLower = t ∧ uriDecode s = 46 :: uriDecode rest := by
  obtain ⟨a, s, rfl, ha, hs⟩ := List.map_eq_cons_iff.1 lower
  obtain ⟨b, s, rfl, hb, hs⟩ := List.map_eq_cons_iff.1 hs
  obtain ⟨c, rest, rfl, hc, ht⟩ := List.map_eq_cons_iff.1 hs
  have sign : a = '%' := (toLower_eq ha).resolve_right fun h => absurd h.1 (by decide)
  have two : b = '2' := (toLower_eq hb).resolve_right fun h => absurd h.1 (by decide)
  subst sign two
  refine ⟨rest, ht, ?_⟩
  rcases toLower_eq hc with rfl | ⟨-, code⟩
  · rfl
  · have big : c = 'E' := by
      apply Char.toNat_inj.1
      have : 'e'.toNat = 'E'.toNat + 32 := rfl
      omega
    subst big
    rfl

theorem utf8_dots : utf8 "." = [46] ∧ utf8 ".." = [46, 46] := by
  rw [utf8_eq, utf8_eq]
  decide

/-- A text coded as one dot segment or the other is that many dots itself. -/
theorem eq_dot_of_uriDecode {id : String} (byte : uriDecode (uriEncode id).toList = [46]) :
    id = "." := by
  rw [uriDecode_uriEncode, ← utf8_dots.1] at byte
  exact utf8_injective byte

theorem eq_dots_of_uriDecode {id : String} (bytes : uriDecode (uriEncode id).toList = [46, 46]) :
    id = ".." := by
  rw [uriDecode_uriEncode, ← utf8_dots.2] at bytes
  exact utf8_injective bytes

theorem uriEncode_dots : uriEncode "." = "." ∧ uriEncode ".." = ".." := by
  rw [uriEncode, uriEncode, utf8_dots.1, utf8_dots.2]
  decide

theorem isSingleDot_uriEncode (id : String) : isSingleDot (uriEncode id) = true ↔ id = "." := by
  constructor
  · intro dot
    apply eq_dot_of_uriDecode
    simp only [isSingleDot, List.contains_cons, List.contains_nil, Bool.or_false, Bool.or_eq_true,
      beq_iff_eq, asciiLower, ← String.toList_inj, String.toList_ofList] at dot
    rcases dot with plain | coded
    · obtain ⟨rest, hrest, hdecode⟩ := uriDecode_dot plain
      rw [hdecode, List.map_eq_nil_iff.1 hrest, uriDecode]
    · obtain ⟨rest, hrest, hdecode⟩ := uriDecode_coded_dot coded
      rw [hdecode, List.map_eq_nil_iff.1 hrest, uriDecode]
  · rintro rfl
    rw [uriEncode_dots.1]
    decide

theorem isDoubleDot_uriEncode (id : String) : isDoubleDot (uriEncode id) = true ↔ id = ".." := by
  constructor
  · intro dots
    apply eq_dots_of_uriDecode
    simp only [isDoubleDot, List.contains_cons, List.contains_nil, Bool.or_false, Bool.or_eq_true,
      beq_iff_eq, asciiLower, ← String.toList_inj, String.toList_ofList] at dots
    rcases dots with plain | second | first | coded
    · obtain ⟨rest, hrest, hdecode⟩ := uriDecode_dot plain
      obtain ⟨rest', hrest', hdecode'⟩ := uriDecode_dot hrest
      rw [hdecode, hdecode', List.map_eq_nil_iff.1 hrest', uriDecode]
    · obtain ⟨rest, hrest, hdecode⟩ := uriDecode_dot second
      obtain ⟨rest', hrest', hdecode'⟩ := uriDecode_coded_dot hrest
      rw [hdecode, hdecode', List.map_eq_nil_iff.1 hrest', uriDecode]
    · obtain ⟨rest, hrest, hdecode⟩ := uriDecode_coded_dot first
      obtain ⟨rest', hrest', hdecode'⟩ := uriDecode_dot hrest
      rw [hdecode, hdecode', List.map_eq_nil_iff.1 hrest', uriDecode]
    · obtain ⟨rest, hrest, hdecode⟩ := uriDecode_coded_dot coded
      obtain ⟨rest', hrest', hdecode'⟩ := uriDecode_coded_dot hrest
      rw [hdecode, hdecode', List.map_eq_nil_iff.1 hrest', uriDecode]
  · rintro rfl
    rw [uriEncode_dots.2]
    decide

/-- What resolving dot segments makes of a document's path. -/
theorem resolveSegments_document {name : String} (single : isSingleDot name = false)
    (double : isDoubleDot name = false) (id : String) :
    resolveSegments [] [name, "_doc", uriEncode id] =
      if id = ".." then [name, ""] else if id = "." then [name, "_doc", ""]
      else [name, "_doc", uriEncode id] := by
  have doc : isSingleDot "_doc" = false ∧ isDoubleDot "_doc" = false := by decide
  simp [resolveSegments, single, double, doc, isSingleDot_uriEncode, isDoubleDot_uriEncode]

@[simp] theorem setPath_isOpaque (url : Url) (path : String) :
    (url.setPath path).isOpaque = url.isOpaque := by
  rw [setPath]
  split <;> rfl

@[simp] theorem setPath_host (url : Url) (path : String) :
    (url.setPath path).host = url.host := by
  rw [setPath]
  split <;> rfl

theorem withRest_isOpaque (url : Url) (s : List Char) :
    (withRest url s).isOpaque = url.isOpaque := by
  simp only [withRest, apply_ite Url.isOpaque, setPath_isOpaque, ite_self]

theorem withRest_host (url : Url) (s : List Char) : (withRest url s).host = url.host := by
  simp only [withRest, apply_ite Url.host, setPath_host, ite_self]

theorem withFile_isOpaque {s : List Char} {url : Url} (read : withFile s = .ok url) :
    url.isOpaque = false := by
  unfold withFile at read
  dsimp only at read
  split at read
  · split at read
    · cases read
      rw [withRest_isOpaque]
    · split at read
      · cases read
        rw [withRest_isOpaque]
      · rename_i rest _ _
        cases host : domainHost (rest.takeWhile fun c => !endsAuthority true c) with
        | error e => simp [host, bind, Except.bind] at read
        | ok name =>
          simp only [host, bind, Except.bind] at read
          cases read
          rw [withRest_isOpaque]
  · cases read
    rw [withRest_isOpaque]

theorem withAuthority_isOpaque {scheme : String} {s : List Char} {url : Url}
    (read : withAuthority scheme s = .ok url) : url.isOpaque = false := by
  unfold withAuthority at read
  simp only [bind, Except.bind, throw, throwThe, MonadExceptOf.throw, pure, Except.pure] at read
  -- Every way through either fails or ends in a URL with segments.
  repeat' split at read
  all_goals cases read
  all_goals rw [withRest_isOpaque]

/-- A URL whose path is one text has no host, so no request can be sent to it. -/
theorem host_of_opaque {text : String} {url : Url} (read : parse text = .ok url)
    (noSegments : url.isOpaque = true) : url.host = none := by
  unfold parse at read
  split at read
  · cases read
  · split at read
    · rw [withFile_isOpaque read] at noSegments
      cases noSegments
    · split at read
      · rw [withAuthority_isOpaque read] at noSegments
        cases noSegments
      · split at read
        · rw [withAuthority_isOpaque read] at noSegments
          cases noSegments
        · cases read
          rw [withRest_isOpaque] at noSegments
          cases noSegments
        · cases read
          rw [withRest_host]

end Url

namespace Cluster

namespace Backend

theorem believed_snd (answer : Nat × String) (link : Link) :
    ((believed answer).run.run link).2 = link := by
  rw [run_believed]

theorem base_of_connect {config : IndexConfig} {env : Environment} {b : Backend}
    (connected : connect config env = .ok b) : Url.parse config.url = .ok b.base := by
  unfold connect at connected
  split at connected
  · cases connected
  · rename_i base parsed
    rw [parsed]
    split at connected
    · cases signed : Credentials.ofEnvironment env with
      | error failure => simp [signed, bind, Except.bind] at connected
      | ok credentials =>
        simp only [signed, bind, Except.bind] at connected
        cases connected
        rfl
    · cases connected
      rfl
    · cases connected
      rfl

def deletion (b : Backend) (id : String) (link : Link) : Request :=
  b.request .delete (b.documentPath id) [] none link.clock

theorem sent_deleteDocument (b : Backend) (id : String) (link : Link) :
    ((b.answer (.deleteDocument id)).run.run link).2.sent =
      link.sent ++
        (if Exchange.unsendable? (b.deletion id link) = none then [b.deletion id link]
        else []) := by
  have first : ((b.answer (.deleteDocument id)).run.run link).2 =
      ((Exchange.send (b.deletion id link)).run.run link).2 := by
    unfold answer
    rw [Exchange.run_bind_snd (fun _ _ => rfl), sendJson, Exchange.run_bind_snd believed_snd, send,
      Exchange.run_bind]
    rfl
  rw [first, Exchange.sent_send]

theorem documentPath_eq (b : Backend) (id : String) :
    b.documentPath id = Url.pathOf [uriEncode b.index, "_doc", uriEncode id] := by
  rw [documentPath, indexPath, Url.pathOf, String.intercalate_cons_cons,
    String.intercalate_cons_cons, String.intercalate_singleton]
  simp only [← String.toList_inj, String.toList_append, List.append_assoc]
  rfl

/-- The URL names the document of the index and nothing else: three segments, of which the last
reads back as the id. -/
def Addresses (b : Backend) (id : String) (url : Url) : Prop :=
  ∃ third, Url.segmentsOf url.path = [uriEncode b.index, "_doc", third] ∧
    uriDecode third.toList = utf8 id

/-- The segments that a request for a document ends up with. -/
def resolved (b : Backend) (id : String) : List String :=
  if id = ".." then [uriEncode b.index, ""]
  else if id = "." then [uriEncode b.index, "_doc", ""]
  else [uriEncode b.index, "_doc", uriEncode id]

theorem path_deletion {b : Backend} (segments : b.base.isOpaque = false)
    (name : b.index ≠ "." ∧ b.index ≠ "..") (id : String) (link : Link) :
    (b.deletion id link).url.path = Url.pathOf (b.resolved id) := by
  have single : Url.isSingleDot (uriEncode b.index) = false := by
    rw [Bool.eq_false_iff, ne_eq, Url.isSingleDot_uriEncode]
    exact name.1
  have double : Url.isDoubleDot (uriEncode b.index) = false := by
    rw [Bool.eq_false_iff, ne_eq, Url.isDoubleDot_uriEncode]
    exact name.2
  have written : Url.segmentsOf (b.documentPath id) =
      [uriEncode b.index, "_doc", uriEncode id] := by
    rw [documentPath_eq, Url.segmentsOf_pathOf (by simp)]
    simp [slash_not_mem_uriEncode]
  have path : (b.deletion id link).url.path =
      Url.pathOf (Url.resolveSegments [] (Url.segmentsOf (b.documentPath id))) := by
    simp [deletion, request, Url.setQuery, Url.setPath, segments]
  rw [path, written, Url.resolveSegments_document single double, resolved]

theorem segmentsOf_deletion {b : Backend} (segments : b.base.isOpaque = false)
    (name : b.index ≠ "." ∧ b.index ≠ "..") (id : String) (link : Link) :
    Url.segmentsOf (b.deletion id link).url.path = b.resolved id := by
  rw [path_deletion segments name]
  apply Url.segmentsOf_pathOf
  · unfold resolved
    split
    · simp
    · split <;> simp
  · unfold resolved
    split
    · simp [slash_not_mem_uriEncode]
    · split <;> simp [slash_not_mem_uriEncode]

theorem addresses_deletion {b : Backend} (segments : b.base.isOpaque = false)
    (name : b.index ≠ "." ∧ b.index ≠ "..") (id : String) (link : Link) :
    b.Addresses id (b.deletion id link).url ↔ id ≠ "." ∧ id ≠ ".." := by
  rw [Addresses, segmentsOf_deletion segments name, resolved]
  constructor
  · rintro ⟨third, path, back⟩
    constructor
    · rintro rfl
      rw [if_neg (by decide), if_pos rfl] at path
      have empty : third = "" := by simpa using path.symm
      rw [empty, Url.utf8_dots.1] at back
      exact absurd back (by decide)
    · rintro rfl
      rw [if_pos rfl] at path
      simp at path
  · rintro ⟨single, double⟩
    rw [if_neg double, if_neg single]
    exact ⟨uriEncode id, rfl, uriDecode_uriEncode id⟩

/-- Deleting a document sends one request if it can be sent at all, and that request addresses the
document, and only it, unless the id is a dot segment. -/
theorem deleteDocument_addresses {config : IndexConfig} {env : Environment} {b : Backend}
    (connected : connect config env = .ok b) (name : b.index ≠ "." ∧ b.index ≠ "..") (id : String)
    (link : Link) :
    ((b.answer (.deleteDocument id)).run.run link).2.sent =
        link.sent ++
          (if Exchange.unsendable? (b.deletion id link) = none then [b.deletion id link] else []) ∧
      (b.deletion id link).method = .delete ∧
      (Exchange.unsendable? (b.deletion id link) = none →
        (b.Addresses id (b.deletion id link).url ↔ id ≠ "." ∧ id ≠ "..")) := by
  refine ⟨sent_deleteDocument b id link, rfl, fun sendable => ?_⟩
  have segments : b.base.isOpaque = false := by
    rw [Bool.eq_false_iff]
    intro noSegments
    have none := Url.host_of_opaque (base_of_connect connected) noSegments
    apply Exchange.host_of_sendable sendable
    rw [deletion, request]
    simpa [Url.setQuery] using none
  exact addresses_deletion segments name id link

/-- A cluster on this machine, reached without signing in. -/
def loopback : IndexConfig := { url := "http://[::1]:9200" }

theorem connect_loopback :
    connect loopback [] =
      .ok ⟨{ scheme := "http", host := some "[::1]", port := some 9200, path := "/" },
        "datasets", .anonymous⟩ := by
  rfl

/-- An id with slashes, dots and a percent code stays one segment. -/
theorem deleteDocument_addresses_slashes :
    ∃ b : Backend, connect loopback [] = .ok b ∧ (b.index ≠ "." ∧ b.index ≠ "..") ∧
      Exchange.unsendable? (b.deletion "../a%2e" {}) = none ∧
      b.Addresses "../a%2e" (b.deletion "../a%2e" {}).url := by
  refine ⟨_, connect_loopback, by decide, by rfl, ?_⟩
  have addresses := (deleteDocument_addresses connect_loopback (by decide) "../a%2e" {}).2.2
  exact (addresses (by rfl)).2 (by decide)

/-- The id of two dots addresses the index itself. -/
theorem deleteDocument_dots :
    ∃ b : Backend, connect loopback [] = .ok b ∧ b.index = "datasets" ∧
      ((b.answer (.deleteDocument "..")).run.run {}).2.sent = [b.deletion ".." {}] ∧
      (b.deletion ".." {}).method = .delete ∧ (b.deletion ".." {}).url.path = "/datasets/" ∧
      ¬ b.Addresses ".." (b.deletion ".." {}).url := by
  refine ⟨_, connect_loopback, rfl, ?_, rfl, ?_, ?_⟩
  · rw [sent_deleteDocument]
    rfl
  · rw [path_deletion rfl (by decide), resolved, if_pos rfl, uriEncode, utf8_eq]
    decide
  · rw [addresses_deletion rfl (by decide)]
    decide

end Backend

end Cluster

end CatalogSearch
