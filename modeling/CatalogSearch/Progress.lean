import CatalogSearch.Json.Printer
import CatalogSearch.Text.Digits

/-!
# Progress

What a long job reports while it runs, and the two ways to show it: lines for people, and one JSON
object a line for programs.
-/
namespace CatalogSearch

/-- A step of a job that is worth a report. -/
inductive Progress where
  | syncStarted (totalRecords totalPages : Nat)
  | pageIndexed (page totalPages succeeded failed : Nat)
  /-- One batch of missing and updated ids was repaired. -/
  | repairBatch (batch totalBatches indexed skipped : Nat)
  | repairDeleted (deleted failed : Nat)
  deriving DecidableEq, Repr

namespace Progress

inductive Mode where
  | off | human | json
  deriving DecidableEq, Repr

def Mode.parse (name : String) : Except String Mode :=
  match name with
  | "off" => .ok .off
  | "human" => .ok .human
  | "json" => .ok .json
  | other => .error s!"unknown progress mode '{other}' (expected off, human, or json)"

/-- An event as a line for people. -/
def humanLine : Progress → String
  | .syncStarted records pages =>
    s!"sync  {Text.grouped records} records in {Text.grouped pages} pages"
  | .pageIndexed page pages succeeded failed =>
    s!"sync  page {Text.grouped page} / {Text.grouped pages}  {Text.grouped succeeded} indexed, " ++
      s!"{Text.grouped failed} failed"
  | .repairBatch batch batches indexed skipped =>
    s!"repair  batch {batch} / {batches}  {Text.grouped indexed} indexed, " ++
      s!"{Text.grouped skipped} skipped"
  | .repairDeleted deleted failed =>
    s!"repair  {Text.grouped deleted} deleted, {Text.grouped failed} failed"

def toJson (event : Progress) : Json :=
  let details : List (String × Json) := match event with
    | .syncStarted records pages =>
      [("phase", .str "sync_started"), ("total_records", .nat records), ("total_pages", .nat pages)]
    | .pageIndexed page pages succeeded failed =>
      [("phase", .str "page_indexed"), ("page", .nat page), ("total_pages", .nat pages),
        ("succeeded", .nat succeeded), ("failed", .nat failed)]
    | .repairBatch batch batches indexed skipped =>
      [("phase", .str "repair_batch"), ("batch", .nat batch), ("total_batches", .nat batches),
        ("indexed", .nat indexed), ("skipped", .nat skipped)]
    | .repairDeleted deleted failed =>
      [("phase", .str "repair_deleted"), ("deleted", .nat deleted), ("failed", .nat failed)]
  Json.object (("event", .str "progress") :: details)

def line? (mode : Mode) (event : Progress) : Option String :=
  match mode with
  | .off => none
  | .human => some event.humanLine
  | .json => some event.toJson.print

end Progress

end CatalogSearch
