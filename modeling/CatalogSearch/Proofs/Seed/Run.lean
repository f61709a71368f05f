import CatalogSearch.Command.Load
import CatalogSearch.Proofs.Command.Opening
import CatalogSearch.Proofs.Seed.Again
import Mathlib

/-!
# Runs of the seed command

A run that succeeds has stored every line of its file, and whoever runs it again on the same file
and the same database writes the same rows once more.
-/
namespace CatalogSearch.Command

open Seed (randomId)
open Store (Locator Tables ofOffice)

namespace SeedRun

section

variable {config : Config} {file content : String} {entries : List SeedEntry} {w w₁ : World}
  {seat : Seat} {t : Tables}

/-- What a run comes to, unless it has something to store in a database that can only be read. -/
theorem run_stores {outcome : Except Failure Unit} {db : Store.Database}
    (read : w.read file = .ok content) (parsed : Seed.parse content = .ok entries)
    (opened : (Session.openTables config).run w = (.ok seat, w₁))
    (writable : seat.isProtected = true → entries = []) (there : w₁.database seat = ⟨some t⟩)
    (stored : Seed.storeAll w₁.ids w₁.drawn entries ⟨some t⟩ = (outcome, db)) :
    ((run config file).run w).1 = outcome.mapError Stop.failure ∧
      ((run config file).run w).2.database seat = db := by
  have kept := World.database_setDatabase there db
  unfold run
  rw [Action.run_bind (Action.run_get w), read, Action.run_bind (Action.run_ofOutcome content w),
    parsed, Action.run_bind (Action.run_ofOutcome entries w), Action.run_bind opened,
    Action.run_bind (Action.run_get w₁)]
  cases locked : seat.isProtected with
  | true =>
    obtain rfl := writable locked
    obtain ⟨rfl, rfl⟩ := Prod.mk.inj stored
    exact ⟨rfl, there⟩
  | false =>
    simp only [there, stored]
    cases outcome with
    | error f => exact ⟨rfl, kept⟩
    | ok u => exact ⟨rfl, kept⟩

/-- A run that succeeds on a database that can only be read has nothing to store. -/
theorem eq_nil_of_protected (read : w.read file = .ok content)
    (parsed : Seed.parse content = .ok entries)
    (opened : (Session.openTables config).run w = (.ok seat, w₁))
    (locked : seat.isProtected = true) (succeeds : ((run config file).run w).1 = .ok ()) :
    entries = [] := by
  unfold run at succeeds
  rw [Action.run_bind (Action.run_get w), read, Action.run_bind (Action.run_ofOutcome content w),
    parsed, Action.run_bind (Action.run_ofOutcome entries w), Action.run_bind opened,
    Action.run_bind (Action.run_get w₁)] at succeeds
  cases entries with
  | nil => rfl
  | cons e rest =>
    have refused : ∃ f, Seed.storeNone (e :: rest) (w₁.database seat) = .error f := by
      cases looked : Seed.storedId e (w₁.database seat) <;>
        simp [Seed.storeNone, looked, bind, Except.bind]
    obtain ⟨f, refused⟩ := refused
    simp only [locked, refused] at succeeds
    cases succeeds

/-- After a run that succeeds, the slug of every line leads to what the line brought, unless the
line brings no id and a later line brings the id of the dataset that had its slug: then the slug
leads nowhere. Running again on the same file succeeds, after which every slug leads to what its
line brought, and changes nothing exactly if no line was displaced. -/
theorem run_twice (config : Config) (file : String) (read : w.read file = .ok content)
    (parsed : Seed.parse content = .ok entries) (proper : Seed.Proper entries)
    (opened : (Session.openTables config).run w = (.ok seat, w₁))
    (there : w₁.database seat = ⟨some t⟩) (valid : t.Valid)
    (fresh : Seed.FreshIds w₁.ids w₁.drawn entries t)
    (succeeds : ((run config file).run w).1 = .ok ()) :
    ∃ t', ((run config file).run w).2.database seat = ⟨some t'⟩ ∧
      (∀ e ∈ entries, ¬ Seed.Displaced t entries e → Seed.Resolves t' e) ∧
      (∀ e ∈ entries, Seed.Displaced t entries e →
        t'.answer (.findBySlug e.record.slug) = .ok none) ∧
      ∀ w₂ w₃, w₂.read file = .ok content →
        (Session.openTables config).run w₂ = (.ok seat, w₃) → w₃.database seat = ⟨some t'⟩ →
        Seed.FreshIds w₃.ids w₃.drawn entries t' →
        ((run config file).run w₂).1 = .ok () ∧
          ∃ t'', ((run config file).run w₂).2.database seat = ⟨some t''⟩ ∧
            (∀ e ∈ entries, Seed.Resolves t'' e) ∧
            (t'' = t' ↔ ∀ e ∈ entries, ¬ Seed.Displaced t entries e) := by
  have writable : seat.isProtected = true → entries = [] := fun locked =>
    eq_nil_of_protected read parsed opened locked succeeds
  cases stored : Seed.storeAll w₁.ids w₁.drawn entries ⟨some t⟩ with
  | mk outcome db =>
    obtain ⟨ended, left⟩ := run_stores read parsed opened writable there stored
    rw [ended] at succeeds
    cases outcome with
    | error f => cases succeeds
    | ok u =>
      obtain ⟨t', rfl, resolved, displaced, again⟩ :=
        Seed.stored_again parsed valid proper fresh stored
      refine ⟨t', left, resolved, displaced, ?_⟩
      intro w₂ w₃ read' opened' there' fresh'
      obtain ⟨t'', wrote, healed, unchanged⟩ := again w₃.ids w₃.drawn fresh'
      obtain ⟨ended', left'⟩ := run_stores read' parsed opened' writable there' wrote
      exact ⟨ended', t'', left', healed, unchanged⟩

end

/-- A line of one office that brings no metadata. -/
def lineOf (line : Option String × String) : SeedEntry :=
  ⟨line.1, ofOffice "" line.2 "N" (.obj [])⟩

/-- Is an entry such a line? -/
def isLine (e : SeedEntry) : Bool :=
  e.record.id = "" && (e.record.dcat matches .obj []) &&
    e.record.organization = (lineOf (e.id, e.record.slug)).record.organization &&
    e.record.harvestSource = none && e.record.popularity = none && e.record.lastHarvested = none

theorem lineOf_of_isLine {e : SeedEntry} (h : isLine e = true) :
    lineOf (e.id, e.record.slug) = e := by
  obtain ⟨id, recordId, slug, dcat, org, source, popularity, harvested⟩ := e
  simp [isLine] at h
  obtain ⟨⟨⟨⟨⟨rfl, empty⟩, rfl⟩, rfl⟩, rfl⟩, rfl⟩ := h
  split at empty
  · rfl
  · cases empty

/-- Two lines, of which the second brings an id. -/
def lines : List SeedEntry := [(none, "water"), (some "x", "air")].map lineOf

def textOf (id slug : String) : String :=
  "\x7b" ++ id ++ "\"slug\":\"" ++ slug ++
    "\",\"organization\":[\"o\",\"N\",null,\"office\",null]\x7d\n"

def text : String := textOf "" "water" ++ textOf "\"id\":\"x\"," "air"

theorem parse_text : Seed.parse text = .ok lines := by
  have checked : (Seed.parse text).toOption.any (fun entries => entries.all isLine &&
      decide (entries.map (fun e => (e.id, e.record.slug)) =
        [(none, "water"), (some "x", "air")])) = true := by
    decide +kernel
  cases parsed : Seed.parse text with
  | error f =>
    rw [parsed] at checked
    cases checked
  | ok entries =>
    rw [parsed] at checked
    simp only [Except.toOption, Option.any_some, Bool.and_eq_true, List.all_eq_true,
      decide_eq_true_eq] at checked
    obtain ⟨plain, summary⟩ := checked
    have same : (entries.map fun e => (e.id, e.record.slug)).map lineOf = entries := by
      rw [List.map_map]
      apply (List.map_congr_left fun e mem => _).trans (List.map_id' entries)
      exact fun e mem => lineOf_of_isLine (plain e mem)
    rw [← same, summary]
    rfl

theorem proper_lines : Seed.Proper lines where
  apart := by simp [lines, lineOf, Seed.Apart, ofOffice]
  organizations := by simp [lines, lineOf, ofOffice]
  whole := by simpa [lines, lineOf, ofOffice] using Json.isMetadata_empty.whole.mono (by decide)
  plain := by simpa [lines, lineOf, ofOffice] using Json.unembedded_empty

/-- A world with a database and a file of the two lines. -/
def worldOf (drawn : Nat) (t : Tables) : World :=
  { files := { nodes := [("/c.db", .database ⟨some t⟩), ("/seed.jsonl", .text text)] }, drawn }

/-- The configuration of this world, and where its database is. -/
def config : Config := { dbPath := "/c.db" }

def seat : Seat := { file := some ["c.db"] }

theorem read_worldOf (drawn : Nat) (t : Tables) :
    (worldOf drawn t).read "/seed.jsonl" = .ok text := by
  cbv

theorem openTables_worldOf (drawn : Nat) (t : Tables) :
    (Session.openTables config).run (worldOf drawn t) = (.ok seat, worldOf drawn t) := by
  have located : Locator.ofPath "/c.db" = .ok { file := "/c.db" } := by decide +kernel
  have sound : ({ file := "/c.db" } : Locator).fault? = none := by
    have plain : "/c.db".contains '\x00' = false := by simp
    simp [Locator.fault?, plain, Locator.hostAndPath]
  have parts : Files.parts "/c.db" = ["", "c.db"] := by decide +kernel
  have parent : (worldOf drawn t).files.makeParent "/c.db" =
      (none, (worldOf drawn t).files) := by
    simp [Files.makeParent, parts, Files.makeAll]
  have opened : (worldOf drawn t).openDatabase config.dbPath =
      (.ok seat, (worldOf drawn t).claim { file := "/c.db" } seat) :=
    World.openDatabase_eq parent located sound rfl rfl
  rw [Session.openTables_eq opened rfl]
  rfl

/-- A line stored under an id. -/
def put (id : String) (line : Option String × String) (t : Tables) : Tables :=
  t.written ((lineOf line).toRecord id)

/-- What the lines leave in an empty database. -/
def settled : Tables :=
  put "x" (some "x", "air") (put (randomId 0) (none, "water") {})

/-- On an empty database all lines are stored, and running again changes nothing. -/
theorem run_twice_empty :
    ∃ t, ((run config "/seed.jsonl").run (worldOf 0 {})).2.database seat = ⟨some t⟩ ∧
      (∀ e ∈ lines, Seed.Resolves t e) ∧
      ((run config "/seed.jsonl").run (worldOf 2 t)).1 = .ok () ∧
      ((run config "/seed.jsonl").run (worldOf 2 t)).2.database seat = ⟨some t⟩ := by
  have stored : Seed.storeAll randomId 0 lines ⟨some {}⟩ = (.ok (), ⟨some settled⟩) := by
    decide +kernel
  have fresh : Seed.FreshIds randomId 0 lines {} := by
    constructor <;> decide +kernel
  have again : Seed.FreshIds randomId 2 lines settled := by
    constructor <;> decide +kernel
  obtain ⟨succeeds, left⟩ := run_stores (read_worldOf 0 {}) parse_text (openTables_worldOf 0 {})
    (by simp [seat]) rfl stored
  obtain ⟨t, left', resolved, -, reruns⟩ := run_twice config "/seed.jsonl" (read_worldOf 0 {})
    parse_text proper_lines (openTables_worldOf 0 {}) rfl .empty fresh succeeds
  obtain rfl : settled = t :=
    Option.some.inj (congrArg Store.Database.tables (left.symm.trans left'))
  have none : ∀ e ∈ lines, ¬ Seed.Displaced {} lines e := by
    rintro e - ⟨-, id, d, ⟨row, found, -⟩, -⟩
    cases found
  obtain ⟨succeeds', t', left'', -, unchanged⟩ := reruns (worldOf 2 settled) (worldOf 2 settled)
    (read_worldOf 2 settled) (openTables_worldOf 2 settled) rfl again
  rw [unchanged.2 none] at left''
  exact ⟨settled, left, fun e mem => resolved e mem (none e mem), succeeds', left''⟩

/-- A database with one dataset. -/
def waters : Tables := put "x" (some "x", "water") {}

/-- Where the dataset has the slug of the first line and the id of the second, the second line takes
the place of the first, and running again stores the first line anew. -/
theorem run_displaces :
    Seed.parse text = .ok lines ∧ Seed.Proper lines ∧ waters.Valid ∧
      Seed.FreshIds randomId 0 lines waters ∧ (worldOf 0 waters).database seat = ⟨some waters⟩ ∧
      ((run config "/seed.jsonl").run (worldOf 0 waters)).1 = .ok () ∧
      ∃ t, ((run config "/seed.jsonl").run (worldOf 0 waters)).2.database seat = ⟨some t⟩ ∧
        t.answer (.findBySlug "water") = .ok none ∧ Seed.FreshIds randomId 2 lines t ∧
        ((run config "/seed.jsonl").run (worldOf 2 t)).1 = .ok () ∧
        ((run config "/seed.jsonl").run (worldOf 2 t)).2.database seat ≠ ⟨some t⟩ := by
  have valid : waters.Valid := by
    apply Tables.Valid.empty.written
    unfold Tables.Blocks
    decide +kernel
  have first : Seed.storeAll randomId 0 lines ⟨some waters⟩ =
      (.ok (), ⟨some (put "x" (some "x", "air") waters)⟩) := by
    decide +kernel
  have second : Seed.storeAll randomId 2 lines ⟨some (put "x" (some "x", "air") waters)⟩ =
      (.ok (), ⟨some (put (randomId 2) (none, "water") (put "x" (some "x", "air") waters))⟩) := by
    decide +kernel
  have gone : (put "x" (some "x", "air") waters).joined.find?
      (fun e => decide (e.2.1.slug = "water")) = none := by
    decide +kernel
  obtain ⟨succeeds, left⟩ := run_stores (read_worldOf 0 waters) parse_text
    (openTables_worldOf 0 waters) (by simp [seat]) rfl first
  obtain ⟨succeeds', left'⟩ := run_stores (read_worldOf 2 _) parse_text (openTables_worldOf 2 _)
    (by simp [seat]) rfl second
  refine ⟨parse_text, proper_lines, valid, by constructor <;> decide +kernel, rfl, succeeds, _,
    left, ?_, by constructor <;> decide +kernel, succeeds', ?_⟩
  · rw [Tables.answer, Tables.findOne, gone]
  · rw [left']
    decide +kernel

end SeedRun

end CatalogSearch.Command
