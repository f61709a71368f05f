import CatalogSearch.Index.Call
import CatalogSearch.Text.Letters

/-!
# Matching and ranking

Texts are compared by their tokens: maximal runs of letters and numbers in lower case. A match
scores the weight of every field that it hits, and hits are put in a strict order that ends with
the id, so that pages never overlap.
-/
namespace CatalogSearch

def Text.tokens (text : String) : List (List Char) :=
  (runs (fun c => !isAlphanumeric c) text.toList).map lowercase

def Document.values (d : Document) : Query.Field → List String
  | .title => [d.title]
  | .description => [d.description]
  | .publisher => [d.publisher]
  | .keyword => d.keyword
  | .theme => d.theme
  | .identifier => [d.identifier]

namespace Query

def total : List Nat → Nat
  | [] => 0
  | n :: rest => n + total rest

/-- How much one term scores: each occurrence counts the weight of its field. -/
def termScore (d : Document) (term : List Char) : Nat :=
  total (searchFields.map fun field =>
    field.boost * ((d.values field).flatMap Text.tokens).count term)

/-- The score of several terms, all of which must occur. -/
def allTermsScore (d : Document) : List (List Char) → Option Nat
  | [] => some 0
  | term :: rest =>
    match termScore d term with
    | 0 => none
    | score => (allTermsScore d rest).map (score + ·)

/-- Do the terms occur side by side among the tokens? -/
def occursIn (terms : List (List Char)) : List (List Char) → Bool
  | [] => terms.isEmpty
  | token :: rest => terms.isPrefixOf (token :: rest) || occursIn terms rest

/-- How much a phrase scores: the weight of every field with a value that holds it. -/
def phraseScore (d : Document) (terms : List (List Char)) : Option Nat :=
  let score := total (searchFields.map fun field =>
    if (d.values field).any fun value => occursIn terms (Text.tokens value) then field.boost else 0)
  if score = 0 then none else some score

mutual

def score (d : Document) : Query → Option Nat
  | .matchAll => some 1
  | .weighted text mode =>
    match Text.tokens text with
    | [] => none
    | terms =>
      match mode with
      | .allWords => allTermsScore d terms
      | .phrase => phraseScore d terms
  | .any alternatives => anyScore d alternatives

/-- The sum of the scores of the alternatives that match, if any does. -/
def anyScore (d : Document) : List Query → Option Nat
  | [] => none
  | q :: rest =>
    match score d q, anyScore d rest with
    | some a, some b => some (a + b)
    | some a, none => some a
    | none, found => found

end

end Query

namespace Index

def Filters.accept (filters : Filters) (d : Document) : Bool :=
  (match filters.orgId with
    | some id => d.organization.id = id
    | none => true) &&
  (filters.orgTypes.isEmpty ||
    match d.organization.organizationType with
    | some type => filters.orgTypes.contains type
    | none => false) &&
  filters.keywords.all d.keyword.contains

/-- Popularity descending, with documents that have none last. -/
def comparePopularity : Option Int → Option Int → Ordering
  | some a, some b => compare b a
  | some _, none => .lt
  | none, some _ => .gt
  | none, none => .eq

abbrev Hit : Type := Nat × Document

/-- The order of two hits; the earlier one is less. -/
def compareHits (sort : SortMode) (a b : Hit) : Ordering :=
  let byId := compare b.2.id a.2.id
  let byPopularity := comparePopularity a.2.popularity b.2.popularity
  match sort with
  | .relevance => (compare b.1 a.1).then (byPopularity.then byId)
  | .popularity => byPopularity.then byId
  | .idOnly => byId

def hits (request : SearchRequest) (documents : List Document) : List Hit :=
  (documents.filter request.filters.accept).filterMap fun d =>
    match request.query with
    | some q => (q.score d).map fun s => (s, d)
    | none => some (0, d)

def rankedHits (request : SearchRequest) (documents : List Document) : List Hit :=
  (hits request documents).mergeSort fun a b => compareHits request.sort a b != .gt

def searchIn (request : SearchRequest) (documents : List Document) : SearchResult :=
  let ranked := rankedHits request documents
  ⟨ranked.length, ((ranked.drop request.start).take request.size).map (·.2)⟩

/-- A list without repetitions, in ascending order. -/
def distinct (keywords : List String) : List String :=
  Keyed.keys (Keyed.ofList (keywords.map fun k => (k, ())))

/-- Count one more document for a keyword. -/
def countKeyword (counts : List (String × Nat)) (keyword : String) : List (String × Nat) :=
  Keyed.insert keyword (((Keyed.find? keyword counts).getD 0) + 1) counts

def keywordCounts (documents : List Document) : List (String × Nat) :=
  documents.foldl (fun counts d => (distinct d.keyword).foldl countKeyword counts) []

/-- More documents first, then the keyword. -/
def bucketLE (a b : String × Nat) : Bool :=
  b.2 < a.2 || (a.2 = b.2 && a.1 ≤ b.1)

/-- The most common keywords: at most `size` of those that `minCount` documents carry. -/
def topKeywords (size minCount : Nat) (documents : List Document) : List (String × Nat) :=
  (((keywordCounts documents).filter fun b => minCount ≤ b.2).mergeSort bucketLE).take size

end Index

end CatalogSearch
