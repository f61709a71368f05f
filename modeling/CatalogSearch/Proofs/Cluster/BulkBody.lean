import CatalogSearch.Cluster.Backend
import CatalogSearch.Proofs.Document.Decoded
import CatalogSearch.Proofs.Text.Pieces

/-!
# The body of a bulk request

Two lines announce and carry each document. No text of a document puts a line break into them, so
the lines can be told apart again, and what the cluster hands back of them is the document.
-/
namespace CatalogSearch

open Json

/-- What the catalog holds as a document: metadata, and a popularity of 64 bits. -/
structure Document.Encodable (d : Document) : Prop where
  metadata : d.dcat.IsMetadata
  popularity : ∀ n ∈ d.popularity, isSigned64 n = true

/-- The lines of a text, with the one behind the last line break. -/
def linesOf (text : String) : List String :=
  (Text.pieces (· = '\n') text.toList).map String.ofList

theorem linesOf_print {n : Nat} {v : Json} (whole : Whole n v) (rest : String) :
    linesOf (v.print ++ "\n" ++ rest) = v.print :: linesOf rest := by
  have solid : ∀ c ∈ v.chars, decide (c = '\n') = false := by
    intro c mem
    rw [decide_eq_false_iff_not]
    rintro rfl
    exact newline_not_mem_chars whole mem
  have first := Text.pieces_append solid (show decide ('\n' = '\n') = true by decide) rest.toList
  have text : (v.print ++ "\n" ++ rest).toList = v.chars ++ '\n' :: rest.toList := by
    simp [print]
  rw [linesOf, text, first]
  rfl

theorem print_ne_empty {n : Nat} {v : Json} (whole : Whole n v) : v.print ≠ "" := by
  obtain ⟨c, more, shape, _⟩ := solid_chars whole
  intro empty
  have chars : v.chars = [] := by
    rw [← String.toList_ofList (l := v.chars)]
    exact congrArg String.toList empty
  rw [shape] at chars
  cases chars

namespace Cluster.Backend

/-- A line announces a document of the index. -/
structure Announces (b : Backend) (line : String) (d : Document) : Prop where
  filled : line ≠ ""
  action : ∃ action, Json.parse line = .ok action ∧
    action.path? ["index", "_index"] = some (.str b.index) ∧
    action.path? ["index", "_id"] = some (.str d.id)

/-- A line carries a document. -/
structure Carries (line : String) (d : Document) : Prop where
  filled : line ≠ ""
  source : ∃ source, Json.parse line = .ok source ∧ Document.ofJson source = .ok d

theorem actionLine_eq (b : Backend) (d : Document) :
    b.actionLine d = .obj [("index", .obj [("_id", .str d.id), ("_index", .str b.index)])] := by
  simp only [actionLine, object, Keyed.ofList, List.foldl_cons, List.foldl_nil, Keyed.insert,
    String.reduceLT, ↓reduceIte]

theorem whole_actionLine (b : Backend) (d : Document) : Whole 2 (b.actionLine d) := by
  rw [actionLine_eq]
  apply Whole.obj
  simp [Whole.obj, Whole.str]

theorem announces_actionLine (b : Backend) (d : Document) :
    b.Announces (b.actionLine d).print d := by
  have whole := whole_actionLine b d
  have plain : (b.actionLine d).Unembedded := by
    rw [actionLine_eq]
    have named : Unembedded (.obj [("_id", .str d.id), ("_index", .str b.index)]) := by
      apply Unembedded.obj
      · simp [embeddedName]
      · simp [Unembedded.str]
    apply Unembedded.obj
    · simp [embeddedName]
    · simp [named]
  have sorted : (b.actionLine d).ordered = b.actionLine d := by
    simp only [actionLine_eq, ordered, orderedMembers, object, Keyed.ofList, List.foldl_cons,
      List.foldl_nil, Keyed.insert, String.reduceLT, String.reduceEq, ↓reduceIte]
  have read := parse_print (whole.mono (by decide)) plain
  constructor
  · exact print_ne_empty whole
  · refine ⟨b.actionLine d, by rw [read, sorted], ?_, ?_⟩
    · simp [actionLine_eq, path?, get?, Keyed.find?]
    · simp [actionLine_eq, path?, get?, Keyed.find?]

section

variable {d : Document} (encodable : d.Encodable)

include encodable

theorem whole_document : Whole 101 d.toJson :=
  Document.whole_toJson encodable.metadata.whole encodable.popularity

theorem parse_document (plain : d.dcat.Unembedded) :
    Json.parse d.toJson.print = .ok d.toJson.ordered :=
  parse_print ((whole_document encodable).mono (by decide)) (Document.unembedded_toJson plain)

theorem carries_toJson (plain : d.dcat.Unembedded) : Carries d.toJson.print d := by
  have decoded := Document.ofJson_ordered encodable.metadata.sorted plain encodable.popularity
  constructor
  · exact print_ne_empty (whole_document encodable)
  · exact ⟨_, parse_document encodable plain, decoded⟩

end

theorem linesOf_bulkBody (b : Backend) {documents : List Document}
    (encodable : ∀ d ∈ documents, d.Encodable) :
    linesOf (b.bulkBody documents) =
      (documents.flatMap fun d => [(b.actionLine d).print, d.toJson.print]) ++ [""] := by
  induction documents with
  | nil => rfl
  | cons d more ih =>
    have here := encodable d List.mem_cons_self
    have there := ih fun e mem => encodable e (List.mem_cons_of_mem _ mem)
    have body : b.bulkBody (d :: more) = (b.actionLine d).print ++ "\n" ++
        (d.toJson.print ++ "\n" ++ b.bulkBody more) := by
      simp [bulkBody, String.append_assoc]
    rw [body, linesOf_print (whole_actionLine b d), linesOf_print (whole_document here), there]
    rfl

theorem length_pairs {α β : Type} (f g : α → β) (items : List α) :
    (items.flatMap fun a => [f a, g a]).length = 2 * items.length := by
  induction items with
  | nil => rfl
  | cons a more ih =>
    rw [List.flatMap_cons, List.length_append, ih, List.length_cons, List.length_cons]
    simp only [List.length_cons, List.length_nil]
    omega

/-- Of parts written two by two, the first ones stand in the even places. -/
theorem getElem?_pairs {α β : Type} (f g : α → β) (items : List α) (last : β) (i : Nat) (a : α)
    (at_ : items[i]? = some a) :
    ((items.flatMap fun a => [f a, g a]) ++ [last])[2 * i]? = some (f a) ∧
      ((items.flatMap fun a => [f a, g a]) ++ [last])[2 * i + 1]? = some (g a) := by
  induction items generalizing i with
  | nil => simp at at_
  | cons b more ih =>
    cases i with
    | zero =>
      obtain rfl : b = a := by simpa using at_
      exact ⟨rfl, rfl⟩
    | succ i =>
      have later := ih i (by simpa using at_)
      have even : 2 * (i + 1) = 2 * i + 1 + 1 := by omega
      rw [even]
      simpa using later

/-- Hits that are read one by one as documents are read together. -/
theorem mapM_readHit {hits : List Json} {documents : List Document}
    (length : hits.length = documents.length)
    (each : ∀ (i : Nat) (hit : Json) (d : Document), hits[i]? = some hit →
      documents[i]? = some d → readHit hit = .ok d) :
    hits.mapM readHit = .ok documents := by
  induction hits generalizing documents with
  | nil =>
    obtain rfl := List.length_eq_zero_iff.1 length.symm
    rfl
  | cons hit more ih =>
    cases documents with
    | nil => cases length
    | cons d documents =>
      have here := each 0 hit d rfl rfl
      have there := ih (by simpa using length) fun i hit d inHits inDocuments =>
        each (i + 1) hit d (by simpa using inHits) (by simpa using inDocuments)
      rw [List.mapM_cons, here, there]
      rfl

/-- A bulk request can be taken apart again: its body is two lines for each document, of which
the first announces and the second carries it, and an empty line. Hits whose sources are what the
second lines hold are read as the documents, with the total that the answer names. -/
theorem bulkBody_decodes (b : Backend) {documents : List Document}
    (encodable : ∀ d ∈ documents, d.Encodable) (plain : ∀ d ∈ documents, d.dcat.Unembedded) :
    (linesOf (b.bulkBody documents)).length = 2 * documents.length + 1 ∧
    (linesOf (b.bulkBody documents)).getLast? = some "" ∧
    (∀ i d, documents[i]? = some d → ∃ action carrier,
      (linesOf (b.bulkBody documents))[2 * i]? = some action ∧ b.Announces action d ∧
      (linesOf (b.bulkBody documents))[2 * i + 1]? = some carrier ∧ Carries carrier d) ∧
    ∀ answer total hits, (answer.path? ["hits", "total", "value"]).bind Json.nat? = some total →
      (answer.path? ["hits", "hits"]).bind Json.arr? = some hits →
      hits.length = documents.length →
      (∀ i hit carrier, hits[i]? = some hit →
        (linesOf (b.bulkBody documents))[2 * i + 1]? = some carrier →
        ∃ source, hit.get? "_source" = some source ∧ Json.parse carrier = .ok source) →
      readSearch answer = .ok ⟨total, documents⟩ := by
  rw [linesOf_bulkBody b encodable]
  have pairs := getElem?_pairs (fun d => (b.actionLine d).print) (fun d => d.toJson.print)
    documents ""
  have carries : ∀ d ∈ documents, Carries d.toJson.print d := fun d mem =>
    carries_toJson (encodable d mem) (plain d mem)
  refine ⟨?_, by simp, fun i d inDocuments => ?_, fun answer total hits counted listed length
    sources => ?_⟩
  · rw [List.length_append, length_pairs, List.length_singleton]
  · obtain ⟨first, second⟩ := pairs i d inDocuments
    have mem := List.mem_of_getElem? inDocuments
    exact ⟨_, _, first, announces_actionLine b d, second, carries d mem⟩
  · have read : hits.mapM readHit = .ok documents := by
      refine mapM_readHit length fun i hit d inHits inDocuments => ?_
      obtain ⟨source, shown, parsed⟩ := sources i hit _ inHits (pairs i d inDocuments).2
      obtain ⟨value, carried, decoded⟩ :=
        (carries d (List.mem_of_getElem? inDocuments)).source
      obtain rfl : value = source := Except.ok.inj (carried.symm.trans parsed)
      simp [readHit, shown, decoded]
    simp only [readSearch, counted, listed, read]
    rfl

/-- An index on this machine. -/
def nearby : Backend := ⟨{ scheme := "http" }, "datasets", .anonymous⟩

/-- A document whose texts hold what has to be escaped. -/
def rugged : Document where
  id := "a\nb"
  slug := "s"
  title := "\"\\\n"
  description := ""
  publisher := ""
  keyword := ["\t"]
  theme := []
  identifier := ""
  organization := ⟨"o", "O", some "\r\n", "o", none⟩
  popularity := some (-5)
  lastHarvested := none
  dcat := .obj [("\n", .arr [.null, .int (-1), .str "\n"])]

theorem encodable_rugged : rugged.Encodable := by
  refine ⟨⟨?_, rfl⟩, by decide⟩
  have small : IsWhole (-1) := by decide
  apply Whole.obj
  simp [Whole.arr, Whole.null, Whole.int small, Whole.str]

/-- Line breaks in an id, a title and the metadata break no line. -/
theorem bulkBody_decodes_rugged :
    rugged.Encodable ∧ rugged.dcat.Unembedded ∧
      (linesOf (nearby.bulkBody [rugged])).length = 3 ∧
      readSearch (.obj [("hits", .obj [
        ("hits", .arr [.obj [("_source", rugged.toJson.ordered)]]),
        ("total", .obj [("value", .int 1)])])]) = .ok ⟨1, [rugged]⟩ := by
  have plain : rugged.dcat.Unembedded := by
    apply Unembedded.obj
    · simp [embeddedName]
    · simp [Unembedded.arr, Unembedded.null, Unembedded.int, Unembedded.str]
  have each : ∀ d ∈ [rugged], d.Encodable := by simpa using encodable_rugged
  have decodes := bulkBody_decodes nearby each (by simpa using plain)
  refine ⟨encodable_rugged, plain, decodes.1, ?_⟩
  refine decodes.2.2.2 _ _ [.obj [("_source", rugged.toJson.ordered)]] rfl rfl rfl ?_
  intro i hit carrier inHits inLines
  obtain rfl : i = 0 := by
    have := (List.getElem?_eq_some_iff.1 inHits).1
    simpa using this
  obtain rfl : .obj [("_source", rugged.toJson.ordered)] = hit := by simpa using inHits
  obtain rfl : rugged.toJson.print = carrier := by
    rw [linesOf_bulkBody nearby each] at inLines
    simpa using inLines
  exact ⟨_, rfl, parse_document encodable_rugged plain⟩

/-- The line that carries a document is not read at all if the metadata begins with the name of an
embedded text. -/
theorem bulkBody_embedding : Document.Encodable { rugged with dcat := .embedding } ∧
    ∃ carrier, (linesOf (nearby.bulkBody [{ rugged with dcat := .embedding }]))[1]? =
        some carrier ∧ (Json.parse carrier).isOk = false := by
  have encodable : Document.Encodable { rugged with dcat := .embedding } :=
    ⟨isMetadata_embedding, encodable_rugged.popularity⟩
  refine ⟨encodable, (Document.toJson { rugged with dcat := .embedding }).print, ?_, ?_⟩
  · rw [linesOf_bulkBody nearby (by simpa using encodable)]
    rfl
  · rw [parse_print_eq]
    decide +kernel

end Cluster.Backend

end CatalogSearch
