import CatalogSearch.Index.Match

/-!
# An index in memory

A search index as a value: a mapping, which is absent while the index does not exist, and its
documents under their ids. Single documents can be made to fail: a rejected one always, a
throttled one as often as its counter says.
-/
namespace CatalogSearch.Index

structure Memory where
  /-- The mapping; none while the index does not exist. -/
  mapping : Option Json := none
  documents : List (String × Document) := []
  /-- The refusals of the documents that are always rejected. -/
  rejected : List (String × ItemError) := []
  /-- How many more writes of a document are turned away. -/
  throttled : List (String × Nat) := []
  refreshes : Nat := 0
  deriving Inhabited, Repr

namespace Memory

def missing : Failure := .notFound "index does not exist"

def ids (m : Memory) : List String := Keyed.keys m.documents

def reject (id errorType reason : String) (m : Memory) : Memory :=
  { m with rejected := Keyed.insert id ⟨id, 400, errorType, reason, none⟩ m.rejected }

/-- Turn away the next writes of a document. -/
def throttle (id : String) (times : Nat) (m : Memory) : Memory :=
  { m with throttled := Keyed.insert id times m.throttled }

/-- The index with an empty mapping if it had none. -/
def touch (m : Memory) : Memory :=
  { m with mapping := some (m.mapping.getD (.obj [])) }

/-- Put a document under its id, whatever is rejected or throttled. -/
def put (d : Document) (m : Memory) : Memory :=
  { m.touch with documents := Keyed.insert d.id d m.documents }

def throttleError (id : String) : ItemError :=
  ⟨id, 429, "es_rejected_execution_exception", "rejected execution", none⟩

/-- Write one document as a bulk request does. -/
def write (d : Document) (m : Memory) : ItemOutcome × Memory :=
  match Keyed.find? d.id m.rejected with
  | some error => (.failed error, m)
  | none =>
    match Keyed.find? d.id m.throttled with
    | some (times + 1) =>
      (.failed (throttleError d.id), { m with throttled := Keyed.insert d.id times m.throttled })
    | _ => (.indexed, { m with documents := Keyed.insert d.id d m.documents })

def writeAll : List Document → Memory → List ItemOutcome × Memory
  | [], m => ([], m)
  | d :: rest, m =>
    let (outcome, m) := m.write d
    let (outcomes, m) := writeAll rest m
    (outcome :: outcomes, m)

def ifExists {α : Type} (m : Memory) (answer : α) (after : Memory) : Except Failure α × Memory :=
  match m.mapping with
  | some _ => (.ok answer, after)
  | none => (.error missing, m)

def answer : (call : Call) → Memory → Except Failure call.Answer × Memory
  | .exists, m => (.ok m.mapping.isSome, m)
  | .create mapping, m =>
    match m.mapping with
    | some _ => (.error (.index (.status 400 "resource_already_exists_exception")), m)
    | none => (.ok (), { m with mapping := some mapping })
  | .drop, m => m.ifExists () { m with mapping := none, documents := [] }
  | .mapping, m =>
    match m.mapping with
    | some mapping => (.ok mapping, m)
    | none => (.error missing, m)
  | .bulk documents, m =>
    let (outcomes, m) := writeAll documents m.touch
    (.ok outcomes, m)
  | .deleteAll, m => m.ifExists m.documents.length { m with documents := [] }
  | .deleteDocument id, m =>
    if Keyed.contains id m.documents then
      (.ok (), { m with documents := Keyed.erase id m.documents })
    else (.error (.notFound s!"document {id}"), m)
  | .search request, m => m.ifExists (searchIn request (Keyed.values m.documents)) m
  | .keywordTerms size minCount, m =>
    m.ifExists (topKeywords size minCount (Keyed.values m.documents)) m
  | .scanFreshness, m =>
    m.ifExists ((Keyed.values m.documents).map fun d => (d.id, d.lastHarvested)) m
  | .refresh, m => m.ifExists () { m with refreshes := m.refreshes + 1 }
  | .count, m => m.ifExists m.documents.length m

end Memory

end CatalogSearch.Index
