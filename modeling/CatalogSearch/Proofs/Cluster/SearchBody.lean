import CatalogSearch.Cluster.Dsl
import CatalogSearch.Keyed.Lookup

/-!
# What a search body says

A search body can be read back to the search that it was made from: the query tree from its nested
clauses, the filters from the conditions that stand apart from it, the order from its first sort
key. So two searches that differ in anything are asked with different bodies. What nearly coincides
is told apart by where it stands: no query has no `must`, a query that accepts everything is a
`must` of its own, and a choice between no alternatives is a `should` without elements.
-/
namespace CatalogSearch.Cluster.Dsl

open Index (Filters SortMode SearchRequest)

/-- The members of an object are found under their keys. -/
theorem get?_object (members : List (String × Json)) (key : String) :
    (Json.object members).get? key = Keyed.find? key members.reverse :=
  Keyed.find?_ofList key members

def readMatch (details : Json) : Option Query := do
  let text ← (← details.get? "query").str?
  match ← (← details.get? "type").str? with
  | "cross_fields" => some (.allWords text)
  | "phrase" => some (.phrase text)
  | _ => none

mutual

def readClause : Json → Option Query
  | .obj [(kind, details)] =>
    if kind = "match_all" then some .matchAll
    else if kind = "multi_match" then readMatch details
    else if kind = "bool" then
      match details with
      | .obj [_, (key, .arr alternatives)] =>
        if key = "should" then (readClauses alternatives).map .any else none
      | _ => none
    else none
  | _ => none

def readClauses : List Json → Option (List Query)
  | [] => some []
  | c :: rest => do
    let query ← readClause c
    let queries ← readClauses rest
    return query :: queries

end

theorem clauses_eq_map (queries : List Query) : clauses queries = queries.map clause := by
  induction queries with
  | nil => rfl
  | cons q rest ih => rw [clauses, ih, List.map_cons]

/-- A choice has one clause for each alternative, in order. -/
theorem clause_any (alternatives : List Query) :
    clause (.any alternatives) = .obj [("bool", .obj
      [("minimum_should_match", .int 1), ("should", .arr (alternatives.map clause))])] := by
  simp only [clause, clauses_eq_map, Json.object, Keyed.ofList, List.foldl_cons, List.foldl_nil,
    Keyed.insert, String.reduceLT, ↓reduceIte]

theorem clause_weighted (text : String) (mode : MatchMode) :
    clause (.weighted text mode) = .obj [("multi_match", matchDetails text mode)] := by
  simp [clause, Json.object, Keyed.ofList, Keyed.insert]

theorem text_matchDetails (text : String) (mode : MatchMode) :
    (matchDetails text mode).get? "query" = some (.str text) := by
  cases mode <;> simp [matchDetails, get?_object, Keyed.find?]

/-- Words and phrases are looked for in the same fields, with the same weights. -/
theorem fields_matchDetails (text : String) (mode : MatchMode) :
    (matchDetails text mode).get? "fields" = some (Json.strings
      ["title^5", "description^3", "publisher^3", "keyword^2", "theme", "identifier"]) := by
  have weighted : weightedFields = Json.strings
      ["title^5", "description^3", "publisher^3", "keyword^2", "theme", "identifier"] := by
    rfl
  rw [← weighted]
  cases mode <;> simp [matchDetails, get?_object, Keyed.find?]

theorem readMatch_matchDetails (text : String) (mode : MatchMode) :
    readMatch (matchDetails text mode) = some (.weighted text mode) := by
  rw [readMatch, text_matchDetails]
  cases mode <;>
    simp [matchDetails, get?_object, Keyed.find?, Json.str?, Query.allWords, Query.phrase]

mutual

/-- The clause of a query stands for that query. -/
theorem readClause_clause : ∀ query, readClause (clause query) = some query
  | .matchAll => by simp [clause, everything, Json.object, Keyed.ofList, Keyed.insert, readClause]
  | .weighted text mode => by
    simp [clause_weighted, readClause, readMatch_matchDetails]
  | .any alternatives => by
    rw [clause_any, ← clauses_eq_map]
    simp [readClause, readClauses_clauses alternatives]

theorem readClauses_clauses : ∀ queries, readClauses (clauses queries) = some queries
  | [] => rfl
  | query :: rest => by
    simp [clauses, readClauses, readClause_clause query, readClauses_clauses rest]

end

def readOrgId (condition : Json) : Option String :=
  (condition.path? ["nested", "query", "term", "organization.id"]).bind Json.str?

def readOrgTypes (condition : Json) : Option (List String) :=
  ((condition.path? ["nested", "query", "terms", "organization.organization_type"]).bind
    Json.arr?).map fun types => types.filterMap Json.str?

def readKeyword (condition : Json) : Option String :=
  (condition.path? ["term", exactKeyword]).bind Json.str?

def readFilters (conditions : List Json) : Filters where
  orgId := conditions.findSome? readOrgId
  orgTypes := (conditions.findSome? readOrgTypes).getD []
  keywords := conditions.filterMap readKeyword

theorem path?_nil (value : Json) : value.path? [] = some value := rfl

theorem path?_single (key other : String) (value : Json) (rest : List String) :
    (Json.object [(key, value)]).path? (other :: rest) =
      if key = other then value.path? rest else none := by
  by_cases same : key = other <;> simp [Json.path?, get?_object, Keyed.find?, same]

theorem path?_onOrganization (condition : Json) (rest : List String) :
    (onOrganization condition).path? ("nested" :: "query" :: rest) = condition.path? rest := by
  simp [onOrganization, Json.path?, get?_object, Keyed.find?]

/-- A condition on the organization is none on a keyword. -/
theorem readKeyword_onOrganization (condition : Json) :
    readKeyword (onOrganization condition) = none := by
  rw [readKeyword, onOrganization, path?_single, if_neg (by decide)]
  rfl

/-- A condition on a keyword is none on the organization. -/
theorem path?_keyword (keyword : String) (rest : List String) :
    (Json.object [("term", Json.object [(exactKeyword, .str keyword)])]).path? ("nested" :: rest) =
      none := by
  rw [path?_single, if_neg (by decide)]

theorem readKeyword_keyword (keyword : String) :
    readKeyword (Json.object [("term", Json.object [(exactKeyword, .str keyword)])]) =
      some keyword := by
  rw [readKeyword, path?_single, if_pos rfl, path?_single, if_pos rfl]
  rfl

/-- What the first condition says comes before what the others say. -/
theorem readFilters_cons (condition : Json) (rest : List Json) :
    readFilters (condition :: rest) =
      ⟨(readOrgId condition).or (readFilters rest).orgId,
        (readOrgTypes condition).getD (readFilters rest).orgTypes,
        (readKeyword condition).toList ++ (readFilters rest).keywords⟩ := by
  cases readId : readOrgId condition <;> cases readTypes : readOrgTypes condition <;>
    cases readWord : readKeyword condition <;>
    simp [readFilters, readId, readTypes, readWord]

theorem readFilters_keywords (keywords : List String) :
    readFilters (keywords.map fun keyword =>
      Json.object [("term", Json.object [(exactKeyword, .str keyword)])]) =
      { keywords := keywords } := by
  induction keywords with
  | nil => rfl
  | cons keyword rest ih =>
    rw [List.map_cons, readFilters_cons, ih, readKeyword_keyword, readOrgId, readOrgTypes,
      path?_keyword, path?_keyword]
    rfl

theorem readFilters_orgTypes (types : List String) (rest : List Json) :
    readFilters (onOrganization (Json.object [("terms",
      Json.object [("organization.organization_type", Json.strings types)])]) :: rest) =
      { readFilters rest with orgTypes := types } := by
  have texts : (types.map Json.str).filterMap Json.str? = types := by
    rw [List.filterMap_map]
    exact List.filterMap_some
  rw [readFilters_cons, readKeyword_onOrganization, readOrgId, readOrgTypes, path?_onOrganization,
    path?_onOrganization]
  simp [path?_single, path?_nil, Json.strings, Json.arr?, texts]

theorem readFilters_orgId (id : String) (rest : List Json) :
    readFilters (onOrganization (Json.object [("term",
      Json.object [("organization.id", .str id)])]) :: rest) =
      { readFilters rest with orgId := some id } := by
  rw [readFilters_cons, readKeyword_onOrganization, readOrgId, readOrgTypes, path?_onOrganization,
    path?_onOrganization]
  simp [path?_single, path?_nil, Json.str?]

/-- Filters are read back from their conditions. -/
theorem readFilters_conditions (filters : Filters) :
    readFilters (conditions filters) = filters := by
  obtain ⟨orgId, orgTypes, keywords⟩ := filters
  cases orgId <;> cases orgTypes <;>
    simp [conditions, readFilters_orgId, readFilters_orgTypes, readFilters_keywords]

/-- The order that a sort clause asks for, by its first key. -/
def readSort : Json → Option SortMode
  | .arr (.obj [(key, _)] :: _) =>
    if key = "_score" then some .relevance
    else if key = "popularity" then some .popularity
    else if key = "_id" then some .idOnly
    else none
  | _ => none

def readMust : Option Json → Option (Option Query)
  | none => some none
  | some (.arr [c]) => (readClause c).map some
  | _ => none

/-- The search that a body was made from. -/
def readBody (body : Json) : Option SearchRequest := do
  let query ← readMust (body.path? ["query", "bool", "must"])
  let conditions := ((body.path? ["query", "bool", "filter"]).bind Json.arr?).getD []
  let sort ← readSort (body.get "sort")
  let size ← (body.get "size").nat?
  let start ← (body.get "from").nat?
  return ⟨query, readFilters conditions, sort, size, start⟩

theorem readSort_sortClause (sort : SortMode) : readSort (sortClause sort) = some sort := by
  cases sort <;>
    simp [sortClause, descending, Json.object, Keyed.ofList, Keyed.insert, readSort]

theorem nat?_nat (n : Nat) : (Json.nat n).nat? = some n := by
  simp [Json.nat, Json.nat?]

/-- The members of a body, of which the query has the clauses of the search, if there are any. -/
theorem get?_searchBody (request : SearchRequest) :
    (searchBody request).get? "query" = some (if searchClauses request = [] then everything
        else Json.object [("bool", Json.object (searchClauses request))]) ∧
      (searchBody request).get "sort" = sortClause request.sort ∧
      (searchBody request).get "size" = .nat request.size ∧
      (searchBody request).get "from" = .nat request.start := by
  unfold searchBody
  cases searchClauses request <;> simp [Json.get, get?_object, Keyed.find?]

/-- The query and the filters stand apart, so that neither is taken for the other. -/
theorem path?_searchBody (request : SearchRequest) :
    (searchBody request).path? ["query", "bool", "must"] =
        request.query.map (fun query => .arr [clause query]) ∧
      (((searchBody request).path? ["query", "bool", "filter"]).bind Json.arr?).getD [] =
        conditions request.filters := by
  rw [Json.path?, Json.path?, (get?_searchBody request).1]
  cases filter : conditions request.filters <;> cases query : request.query <;>
    simp [searchClauses, filter, query, everything, Json.path?, get?_object, Keyed.find?, Json.arr?]

/-- A search is read back from its body. -/
theorem readBody_searchBody (request : SearchRequest) :
    readBody (searchBody request) = some request := by
  obtain ⟨-, sort, size, start⟩ := get?_searchBody request
  obtain ⟨must, filter⟩ := path?_searchBody request
  have query : readMust (request.query.map fun query => .arr [clause query]) =
      some request.query := by
    cases request.query with
    | none => rfl
    | some query => simp [readMust, readClause_clause]
  simp [readBody, must, query, filter, readFilters_conditions, sort, readSort_sortClause, size,
    start, nat?_nat]

/-- A search body loses nothing: it can be read back, so that two searches with one body are the
same search. A choice has one clause for each alternative, in order; words and a phrase are both
looked for in the same six weighted fields. -/
theorem searchBody_loses_nothing :
    (∀ request, readBody (searchBody request) = some request) ∧
    Function.Injective searchBody ∧
    (∀ alternatives, clause (.any alternatives) = .obj [("bool", .obj
      [("minimum_should_match", .int 1), ("should", .arr (alternatives.map clause))])]) ∧
    ∀ text mode, ∃ details, clause (.weighted text mode) = .obj [("multi_match", details)] ∧
      details.get? "query" = some (.str text) ∧
      details.get? "fields" = some (Json.strings
        ["title^5", "description^3", "publisher^3", "keyword^2", "theme", "identifier"]) := by
  refine ⟨readBody_searchBody, fun a b same => ?_, clause_any, fun text mode => ?_⟩
  · have read := readBody_searchBody a
    rw [same, readBody_searchBody b] at read
    exact (Option.some.inj read).symm
  · exact ⟨matchDetails text mode, clause_weighted text mode, text_matchDetails text mode,
      fields_matchDetails text mode⟩

end CatalogSearch.Cluster.Dsl
