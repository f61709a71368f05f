import CatalogSearch.Document
import CatalogSearch.Failure
import CatalogSearch.Query.Node
import CatalogSearch.Store.Call

/-!
# The search index

The requests that jobs make of a search index, and the kind of answer to each; the fixed mapping
of the index; and what a search asks for and finds.
-/
namespace CatalogSearch

namespace Index

/-- The sub-field under `keyword` and `theme` that holds the exact text. -/
def exactSubfield : String := "raw"

def textWithExact : Json := Json.object [
  ("type", .str "text"),
  ("fields", Json.object [(exactSubfield, Json.object [("type", .str "keyword")])])]

/-- The mapping of a field with a type and nothing else. -/
def typed (type : String) : Json := Json.object [("type", .str type)]

/-- The mapping of the index. Keywords and themes can be matched exactly; the metadata is stored
but not searched. -/
def fixedMapping : Json := Json.object [("properties", Json.object [
  ("title", typed "text"),
  ("slug", typed "keyword"),
  ("description", typed "text"),
  ("publisher", typed "text"),
  ("keyword", textWithExact),
  ("theme", textWithExact),
  ("identifier", typed "text"),
  ("popularity", typed "integer"),
  ("last_harvested_date", typed "date"),
  ("dcat", Json.object [("type", .str "object"), ("enabled", .bool false)]),
  ("organization", Json.object [
    ("type", .str "nested"),
    ("properties", Json.object [
      ("id", typed "keyword"),
      ("name", typed "text"),
      ("description", typed "text"),
      ("slug", typed "keyword"),
      ("organization_type", typed "keyword")])])])]

def hasExactKeyword (mapping : Json) : Bool :=
  (mapping.path? ["properties", "keyword", "fields", exactSubfield, "type"]).bind Json.str? =
    some "keyword"

inductive ItemOutcome where
  | indexed
  | failed (error : ItemError)
  deriving DecidableEq, Repr

/-- Conditions on the hits that do not count for their order. -/
structure Filters where
  orgId : Option String := none
  /-- The organization must be of one of these types; no type means any. -/
  orgTypes : List String := []
  /-- Every one of these keywords must be there. -/
  keywords : List String := []
  deriving DecidableEq, Repr, Inhabited

inductive SortMode where
  /-- By score, then popularity, then id, all descending. -/
  | relevance
  /-- By popularity, then id, both descending. -/
  | popularity
  /-- By id, descending. -/
  | idOnly
  deriving DecidableEq, Repr, Inhabited

/-- The order of a name, in any case of its ASCII letters. -/
def SortMode.parse (name : String) : Except String SortMode :=
  match Text.asciiLower name with
  | "relevance" => .ok .relevance
  | "popularity" => .ok .popularity
  | "id" => .ok .idOnly
  | other => .error s!"Unknown sort mode: '{other}'. Use relevance or popularity."

structure SearchRequest where
  /-- The query that scores; none means that the filters alone decide. -/
  query : Option Query
  filters : Filters
  sort : SortMode
  size : Nat
  start : Nat
  deriving Repr

/-- The hits of a search in their order, and the number of all matches. -/
structure SearchResult where
  total : Nat
  items : List Document
  deriving Repr, Inhabited

inductive Call where
  | exists
  | create (mapping : Json)
  | drop
  | mapping
  | bulk (documents : List Document)
  | deleteAll
  | deleteDocument (id : String)
  | search (request : SearchRequest)
  | keywordTerms (size minCount : Nat)
  | scanFreshness
  | refresh
  | count

abbrev Call.Answer : Call → Type
  | .exists => Bool
  | .create _ => Unit
  | .drop => Unit
  | .mapping => Json
  | .bulk _ => List ItemOutcome
  | .deleteAll => Nat
  | .deleteDocument _ => Unit
  | .search _ => SearchResult
  | .keywordTerms _ _ => List (String × Nat)
  | .scanFreshness => List Freshness
  | .refresh => Unit
  | .count => Nat

def Call.name : Call → String
  | .exists => "exists"
  | .create _ => "create"
  | .drop => "drop_index"
  | .mapping => "mapping"
  | .bulk _ => "bulk_index"
  | .deleteAll => "delete_all"
  | .deleteDocument _ => "delete_document"
  | .search _ => "search"
  | .keywordTerms _ _ => "keyword_terms"
  | .scanFreshness => "scan_freshness"
  | .refresh => "refresh"
  | .count => "count"

end Index

end CatalogSearch
