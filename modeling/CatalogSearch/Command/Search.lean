import CatalogSearch.Command.Session
import CatalogSearch.Query.Compile
import CatalogSearch.Text.Digits

/-!
# The search and keywords commands

Query the index and show the hits in their order, or the most frequent keywords.
-/
namespace CatalogSearch.Command

namespace SearchRun

def logTarget : String := "catalog_index::search"

def excerptLength : Nat := 160

/-- A text on one line, cut after `limit` characters. -/
def excerpt (limit : Nat) (text : String) : String :=
  let flat := (String.intercalate " " ((Text.words text.toList).map String.ofList)).toList
  if flat.length ≤ limit then String.ofList flat
  else String.ofList (Text.dropTrailing (flat.take limit)) ++ "..."

def detail (label : String) : Option String → List String
  | some text => ["    " ++ label ++ ": " ++ text]
  | none => []

def hitLines (rank : Nat) (d : Document) : List String :=
  let title := if d.title.isEmpty then "(untitled)" else d.title
  let short := excerpt excerptLength d.description
  [s!"{rank}. {d.organization.name} / {title}"] ++
  detail "harvested" d.lastHarvested ++
  detail "popularity" (d.popularity.map toString) ++
  detail "keywords"
    (if d.keyword.isEmpty then none else some (String.intercalate ", " d.keyword)) ++
  detail "excerpt" (if short.isEmpty then none else some ("\"" ++ short ++ "\"")) ++
  ["    slug: " ++ d.slug, "    id: " ++ d.id, ""]

/-- What is shown of the hits from a rank on; ranks are counted in 64 bits. -/
def hitsFrom : Nat → List Document → List String
  | _, [] => []
  | rank, d :: rest => hitLines (rank % twoTo 64) d ++ hitsFrom (rank + 1) rest

def resultLines (start : Nat) (result : Index.SearchResult) : List String :=
  if result.items.isEmpty then ["No results."]
  else s!"{result.total} total" :: hitsFrom (start + 1) result.items

def run (config : Config) (query : String) (filters : Index.Filters) (sort : Index.SortMode)
    (size start : Nat) : Action Unit := do
  let session ← Session.connect config .off
  let compiled := Query.compile query
  Action.log .debug logTarget "compiled query" [("node", compiled.describe)]
  let result ← session.perform (session.client.withTimeoutRetry "search"
    (Index.Client.searchPage compiled filters sort size start))
  Action.printAll (resultLines start result)

end SearchRun

namespace KeywordsRun

/-- One line a keyword, the number of its documents first. -/
def keywordLines (terms : List (String × Nat)) : List String :=
  if terms.isEmpty then ["No keywords."]
  else terms.map fun e => Text.rightAligned 8 e.2 ++ "  " ++ e.1

def run (config : Config) (size minCount : Nat) : Action Unit := do
  let session ← Session.connect config .off
  let terms ← session.perform (session.client.withTimeoutRetry "keywords"
    (Task.index (.keywordTerms size minCount)))
  Action.printAll (keywordLines terms)

end KeywordsRun

end CatalogSearch.Command
