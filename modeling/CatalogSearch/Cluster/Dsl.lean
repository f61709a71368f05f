import CatalogSearch.Index.Call

/-!
# Query language of a cluster

Compiled queries, filters and orders as the JSON that a cluster is asked with. Filters stand apart
from the query, so they decide about hits without counting for their score.
-/
namespace CatalogSearch.Cluster.Dsl

open Index (Filters SortMode SearchRequest exactSubfield)

/-- The clause that every document matches. -/
def everything : Json := Json.object [("match_all", .obj [])]

/-- A search field with its weight, which is left out if it is one. -/
def weightedField (field : Query.Field) : String :=
  if field.boost = 1 then field.name else s!"{field.name}^{field.boost}"

def weightedFields : Json :=
  Json.strings (Query.searchFields.map weightedField)

def matchDetails (text : String) : MatchMode → Json
  | .allWords => Json.object [
      ("query", .str text), ("type", .str "cross_fields"), ("fields", weightedFields),
      ("operator", .str "and"), ("zero_terms_query", .str "none")]
  | .phrase => Json.object [
      ("query", .str text), ("type", .str "phrase"), ("fields", weightedFields)]

mutual

def clause : Query → Json
  | .matchAll => everything
  | .weighted text mode => Json.object [("multi_match", matchDetails text mode)]
  | .any alternatives =>
    Json.object [("bool", Json.object [
      ("should", .arr (clauses alternatives)), ("minimum_should_match", .int 1)])]

def clauses : List Query → List Json
  | [] => []
  | q :: rest => clause q :: clauses rest

end

def descending (field : String) (details : List (String × Json)) : Json :=
  Json.object [(field, Json.object (("order", .str "desc") :: details))]

def sortClause (sort : SortMode) : Json :=
  let score := descending "_score" []
  let popularity := descending "popularity" [("missing", .str "_last")]
  let id := descending "_id" []
  .arr (match sort with
    | .relevance => [score, popularity, id]
    | .popularity => [popularity, id]
    | .idOnly => [id])

def onOrganization (condition : Json) : Json :=
  Json.object [("nested", Json.object [("path", .str "organization"), ("query", condition)])]

/-- The field that holds keywords in their exact form. -/
def exactKeyword : String := s!"keyword.{exactSubfield}"

def conditions (filters : Filters) : List Json :=
  (match filters.orgId with
    | some id =>
      [onOrganization (Json.object [("term", Json.object [("organization.id", .str id)])])]
    | none => []) ++
  (if filters.orgTypes.isEmpty then []
    else [onOrganization (Json.object [("terms",
      Json.object [("organization.organization_type", Json.strings filters.orgTypes)])])]) ++
  filters.keywords.map fun keyword =>
    Json.object [("term", Json.object [(exactKeyword, .str keyword)])]

/-- The clauses of a search: what must match, and what must hold besides. -/
def searchClauses (request : SearchRequest) : List (String × Json) :=
  (match request.query with
    | some query => [("must", .arr [clause query])]
    | none => []) ++
  (match conditions request.filters with
    | [] => []
    | filter => [("filter", .arr filter)])

def searchBody (request : SearchRequest) : Json :=
  let query := match searchClauses request with
    | [] => everything
    | parts => Json.object [("bool", Json.object parts)]
  Json.object [
    ("query", query), ("sort", sortClause request.sort), ("size", .nat request.size),
    ("from", .nat request.start), ("track_total_hits", .bool true)]

/-- The body that asks for the most frequent keywords. -/
def keywordBody (size minCount : Nat) : Json :=
  Json.object [("size", .int 0), ("aggs", Json.object [("keywords", Json.object [("terms",
    Json.object [("field", .str exactKeyword), ("size", .nat size),
      ("min_doc_count", .nat minCount)])])])]

def freshnessBody (pageSize : Nat) : Json :=
  Json.object [("size", .nat pageSize), ("_source", Json.strings ["last_harvested_date"]),
    ("sort", Json.strings ["_doc"]), ("query", everything)]

end CatalogSearch.Cluster.Dsl
