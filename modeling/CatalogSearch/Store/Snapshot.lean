import CatalogSearch.Store.Tables

/-!
# Snapshots

A database as a JSON value, so that it can be kept in a file between two runs of the program.
-/
namespace CatalogSearch.Store

def DatasetRow.toJson (r : DatasetRow) : Json := Json.object [
  ("slug", .str r.slug), ("dcat", .str r.dcat), ("organization_id", .str r.organizationId),
  ("harvest_source_id", .optional r.harvestSourceId), ("popularity", .optionalInt r.popularity),
  ("last_harvested_date", .optional r.lastHarvested)]

def int? : Json → Option Int
  | .int n => some n
  | _ => none

def DatasetRow.ofJson? (value : Json) : Option DatasetRow := do
  return {
    slug := ← (value.get "slug").str?
    dcat := ← (value.get "dcat").str?
    organizationId := ← (value.get "organization_id").str?
    harvestSourceId := (value.get "harvest_source_id").str?
    popularity := int? (value.get "popularity")
    lastHarvested := (value.get "last_harvested_date").str? }

/-- A table as an object with one member a row. -/
def tableJson {α : Type} (row : α → Json) (rows : List (String × α)) : Json :=
  .obj (rows.map fun e => (e.1, row e.2))

def tableOf? {α : Type} (row : Json → Option α) (value : Json) : Option (List (String × α)) := do
  (← value.obj?).mapM fun e => do return (e.1, ← row e.2)

namespace Database

/-- A database as a value; one without tables is `null`. -/
def toJson (db : Database) : Json :=
  match db.tables with
  | none => .null
  | some t => Json.object [
      ("organizations", tableJson Organization.toJson t.organizations),
      ("harvest_sources", tableJson Json.str t.harvestSources),
      ("datasets", tableJson DatasetRow.toJson t.datasets)]

def ofJson? (value : Json) : Option Database := do
  if value.isNull then return {}
  let organization (v : Json) : Option Organization :=
    (Json.FromValue.record Organization.layout v).toOption
  return ⟨some {
    organizations := ← tableOf? organization (value.get "organizations")
    harvestSources := ← tableOf? Json.str? (value.get "harvest_sources")
    datasets := ← tableOf? DatasetRow.ofJson? (value.get "datasets") }⟩

def toText (db : Database) : String := db.toJson.print

def ofText? (text : String) : Option Database :=
  (Json.parse text).toOption.bind ofJson?

end Database

end CatalogSearch.Store
