import CatalogSearch.Failure
import CatalogSearch.Json.Printer
import CatalogSearch.Json.Reader
import CatalogSearch.Store.Call

/-!
# A store of tables

Records spread over three tables: datasets, organizations and harvest sources, each keyed by id.
A dataset refers to its organization and source, so writing one record can change what others
show. Slugs are unique among datasets and among organizations; a write that would break this
changes nothing at all.
-/
namespace CatalogSearch.Store

/-- A row of the dataset table. The metadata is held as JSON text. -/
structure DatasetRow where
  slug : String
  dcat : String
  organizationId : String
  harvestSourceId : Option String
  popularity : Option Int
  lastHarvested : Option String
  deriving Inhabited, Repr, DecidableEq

def DatasetRow.ofRecord (r : Record) : DatasetRow where
  slug := r.slug
  dcat := r.dcat.print
  organizationId := r.organization.id
  harvestSourceId := r.harvestSource.map HarvestSource.id
  popularity := r.popularity
  lastHarvested := r.lastHarvested

structure Tables where
  organizations : List (String × Organization) := []
  harvestSources : List (String × String) := []
  datasets : List (String × DatasetRow) := []
  deriving Inhabited, Repr, DecidableEq

/-- A database; it has no tables before it is migrated. -/
structure Database where
  tables : Option Tables := none
  deriving Inhabited, Repr, DecidableEq

def databaseError (code : Nat) (text : String) : Failure :=
  let detail := s!"(code: {code}) {text}"
  .context s!"error returned from database: {detail}" (.message detail)

def cannotOpen : Nat × String := (14, "unable to open database file")

/-- The code and the text for a file that holds something else. -/
def noDatabase : Nat × String := (26, "file is not a database")

def readOnlyDatabase : Nat × String := (8, "attempt to write a readonly database")

def errorOf (fault : Nat × String) : Failure := databaseError fault.1 fault.2

/-- A slug is in use under another id. -/
def slugTaken (table : String) : Failure :=
  databaseError 2067 s!"UNIQUE constraint failed: {table}.slug"

def noSuchTable (table : String) : Failure :=
  databaseError 1 s!"no such table: {table}"

namespace Tables

/-- A statement changes the tables or fails and changes nothing. -/
abbrev Statement : Type := Tables → Except Failure Tables

/-- Is a slug in use under another id? -/
def isSlugTaken {α : Type} (slugOf : α → String) (id slug : String) (rows : List (String × α)) :
    Bool :=
  rows.any fun e => e.1 ≠ id && slugOf e.2 = slug

/-- Insert or replace an organization. -/
def putOrganization (org : Organization) : Statement := fun t =>
  if isSlugTaken Organization.slug org.id org.slug t.organizations then
    .error (slugTaken "organization")
  else .ok { t with organizations := Keyed.insert org.id org t.organizations }

def putHarvestSource (source : HarvestSource) : Statement := fun t =>
  .ok { t with harvestSources := Keyed.insert source.id source.name t.harvestSources }

def putDataset (id : String) (row : DatasetRow) : Statement := fun t =>
  if isSlugTaken DatasetRow.slug id row.slug t.datasets then .error (slugTaken "dataset")
  else .ok { t with datasets := Keyed.insert id row t.datasets }

/-- Run statements in their order up to one that fails; what the ones before it changed stays. -/
def execute : List Statement → Tables → Except Failure Unit × Tables
  | [], t => (.ok (), t)
  | statement :: rest, t =>
    match statement t with
    | .ok t => execute rest t
    | .error failure => (.error failure, t)

/-- Run statements as one: if any fails, the tables are again what they were before all. -/
def transaction (statements : List Statement) (t : Tables) : Except Failure Unit × Tables :=
  match execute statements t with
  | (.ok (), t) => (.ok (), t)
  | (.error failure, _) => (.error failure, t)

/-- The statements that write a record, the organization first. -/
def statementsOf (r : Record) : List Statement :=
  [putOrganization r.organization] ++ r.harvestSource.toList.map putHarvestSource ++
    [putDataset r.id (.ofRecord r)]

def upsert (r : Record) (t : Tables) : Except Failure Unit × Tables :=
  transaction (statementsOf r) t

/-- The record of a row, with what it refers to. -/
def recordOf (t : Tables) (id : String) (row : DatasetRow) (org : Organization) :
    Except Failure Record :=
  match Json.parse row.dcat with
  | .error e => .error (.context s!"Invalid DCAT JSON for dataset {id}" (.message e))
  | .ok dcat =>
    let source := row.harvestSourceId.bind fun sourceId =>
      (Keyed.find? sourceId t.harvestSources).map fun name => ⟨sourceId, name⟩
    .ok ⟨id, row.slug, dcat, org, source, row.popularity, row.lastHarvested⟩

/-- The rows joined with their organizations, in ascending order of their ids. -/
def joined (t : Tables) : List (String × DatasetRow × Organization) :=
  t.datasets.filterMap fun e =>
    (Keyed.find? e.2.organizationId t.organizations).map fun org => (e.1, e.2, org)

/-- The records of joined rows, or the first failure. -/
def recordsOf (t : Tables) (rows : List (String × DatasetRow × Organization)) :
    Except Failure (List Record) :=
  rows.mapM fun e => t.recordOf e.1 e.2.1 e.2.2

def signed64 (n : Nat) : Int :=
  if n < twoTo 63 then n else n - twoTo 64

/-- Leave out and take as many rows as asked for; a negative number leaves out none and takes
all. -/
def window {α : Type} (limit offset : Int) (rows : List α) : List α :=
  let rows := rows.drop offset.toNat
  if limit < 0 then rows else rows.take limit.toNat

def idsPerQuery : Nat := 500

/-- The rows of a set of ids, in ascending order of the ids. -/
def rowsOf (t : Tables) (ids : List String) : List (String × DatasetRow × Organization) :=
  t.joined.filter fun e => ids.contains e.1

/-- The records of ids, looked up in parts; `fuel` bounds the number of parts. -/
def recordsInParts (t : Tables) : Nat → List String → Except Failure (List Record)
  | 0, _ => .ok []
  | _, [] => .ok []
  | fuel + 1, ids => do
    let here ← t.recordsOf (t.rowsOf (ids.take idsPerQuery))
    let rest ← t.recordsInParts fuel (ids.drop idsPerQuery)
    return here ++ rest

/-- The record of the first joined row that satisfies a condition. -/
def findOne (t : Tables) (p : String → DatasetRow → Bool) : Except Failure (Option Record) :=
  match t.joined.find? fun e => p e.1 e.2.1 with
  | some e => (t.recordOf e.1 e.2.1 e.2.2).map some
  | none => .ok none

def answer (t : Tables) : (call : Call) → Except Failure call.Answer
  | .countAll => .ok t.datasets.length
  | .page number size =>
    t.recordsOf (window (signed64 size) (signed64 (pageOffset number size)) t.joined)
  | .listing => .ok (t.datasets.map fun e => (e.1, e.2.lastHarvested))
  | .findById id => t.findOne fun i _ => i = id
  | .findBySlug slug => t.findOne fun _ row => row.slug = slug
  | .findByIds ids => t.recordsInParts ids.length ids

end Tables

namespace Database

/-- Create the tables that do not exist yet. -/
def migrate (db : Database) : Database :=
  ⟨some (db.tables.getD {})⟩

/-- Write a record; after a failure the database is what it was. -/
def upsert (r : Record) (db : Database) : Except Failure Database :=
  match db.tables with
  | none => .error (noSuchTable "organization")
  | some t =>
    match t.upsert r with
    | (.ok (), t) => .ok ⟨some t⟩
    | (.error failure, _) => .error failure

/-- Remove a dataset and count the rows that went. -/
def removeDataset (id : String) (db : Database) : Nat × Database :=
  match db.tables with
  | none => (0, db)
  | some t =>
    if Keyed.contains id t.datasets then
      (1, ⟨some { t with datasets := Keyed.erase id t.datasets }⟩)
    else (0, db)

/-- Overwrite the metadata text of a dataset and count the rows that changed. -/
def setDcatText (id text : String) (db : Database) : Nat × Database :=
  match db.tables with
  | none => (0, db)
  | some t =>
    if Keyed.contains id t.datasets then
      (1, ⟨some { t with
        datasets := Keyed.adjust id (fun row => { row with dcat := text }) t.datasets }⟩)
    else (0, db)

def answer (db : Database) (call : Call) : Except Failure call.Answer :=
  match db.tables with
  | some t => t.answer call
  | none =>
    match call with
    | .findByIds [] => .ok []
    | _ => .error (noSuchTable "dataset")

end Database

end CatalogSearch.Store
