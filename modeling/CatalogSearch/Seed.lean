import CatalogSearch.Json.Decode
import CatalogSearch.Record
import CatalogSearch.Store.Tables
import CatalogSearch.Text.Lines

/-!
# Seeding

Records are loaded into the database from a text with one JSON record a line. A record that brings
no id of its own takes the id of the stored one with the same slug, so that loading a text twice
replaces records instead of colliding.
-/
namespace CatalogSearch

/-- One line of a seed: a record that may lack its id. -/
structure SeedEntry where
  id : Option String
  /-- The record; its own id does not count. -/
  record : Record
  deriving Repr

namespace SeedEntry

structure Slots where
  id : Option (Option String) := none
  rest : Record.Slots := {}

/-- How an entry is read: like a record, but id and metadata may be missing. -/
def layout {m : Type → Type} [Json.Source m] : Json.Layout m Slots SeedEntry where
  title := "SeedRecord"
  names := ["id", "slug", "dcat", "organization", "harvest_source", "popularity",
    "last_harvested_date"]
  empty := {}
  put
    | "id" => some fun s => do
      return { s with id := some (← Json.Source.optional Json.Source.text) }
    | name => (Record.layout.put name).map fun read s => do return { s with rest := ← read s.rest }
  seen
    | "id", s => s.id.isSome
    | name, s => (Record.layout (m := m)).seen name s.rest
  finish s := do
    let rest := { s.rest with id := some "", dcat := some (s.rest.dcat.getD (.obj [])) }
    return ⟨s.id.getD none, ← (Record.layout (m := m)).finish rest⟩

def parse (line : String) : Except String SeedEntry :=
  Json.FromText.parse (Json.FromText.record layout) line

def toRecord (id : String) (e : SeedEntry) : Record := { e.record with id }

end SeedEntry

namespace Seed

/-- Read the lines from a number on; blank ones are passed over. -/
def parseLines : Nat → List String → Except Failure (List SeedEntry)
  | _, [] => .ok []
  | number, line :: rest =>
    if line.toList.all Text.isBlank then parseLines (number + 1) rest
    else
      match SeedEntry.parse line with
      | .error e => .error (.context s!"Invalid seed record on line {number}" (.message e))
      | .ok entry => (parseLines (number + 1) rest).map (entry :: ·)

/-- Read a text; lines are counted from one. -/
def parse (content : String) : Except Failure (List SeedEntry) :=
  parseLines 1 (Text.lines content)

def hex (width n : Nat) : String :=
  String.ofList (Text.padLeft '0' width (Nat.toDigits 16 (n % twoTo (4 * width))))

/-- A random id that is made of a random number. -/
def randomId (n : Nat) : String :=
  String.intercalate "-"
    [hex 8 (n / twoTo 90), hex 4 (n / twoTo 74), "4" ++ hex 3 (n / twoTo 62),
      hex 4 (twoTo 15 + n / twoTo 48 % twoTo 14), hex 12 n]

/-- The id of the stored record that an entry without an id replaces. -/
def storedId (e : SeedEntry) (db : Store.Database) : Except Failure (Option String) :=
  match e.id with
  | some _ => .ok none
  | none => (db.answer (.findBySlug e.record.slug)).map fun found => found.map Record.id

/-- Store one entry, with an id to fall back on. -/
def storeEntry (fresh : String) (e : SeedEntry) (db : Store.Database) :
    Except Failure Store.Database := do
  let record := e.toRecord ((e.id <|> (← storedId e db)).getD fresh)
  withContext s!"Failed to store dataset {record.slug}" (db.upsert record)

/-- Try to store entries in a database that can only be read: this fails with the first one. -/
def storeNone (entries : List SeedEntry) (db : Store.Database) : Except Failure Unit :=
  match entries with
  | [] => .ok ()
  | e :: _ => do
    let _ ← storedId e db
    .error (.context s!"Failed to store dataset {e.record.slug}"
      (Store.errorOf Store.readOnlyDatabase))

/-- Store entries in their order; those before a failure stay stored. Each has one of a sequence of
ids to fall back on, from a place in the sequence on. -/
def storeAll (ids : Nat → String) :
    Nat → List SeedEntry → Store.Database → Except Failure Unit × Store.Database
  | _, [], db => (.ok (), db)
  | next, e :: rest, db =>
    match storeEntry (ids next) e db with
    | .error failure => (.error failure, db)
    | .ok db => storeAll ids (next + 1) rest db

end Seed

end CatalogSearch
