import CatalogSearch.Log.Rule

/-!
# Log filters

Which entries are shown. Of the rules that hold for an entry the most special one decides, and an
entry without a rule is not shown. Filters come from the environment or else from the verbosity
asked for.
-/
namespace CatalogSearch.Log

inductive Verbosity where
  | quiet | normal | verbose
  deriving DecidableEq, Repr

namespace Verbosity

/-- The verbosity of two flags; being verbose wins. -/
def ofFlags (verbose quiet : Bool) : Verbosity :=
  if verbose then .verbose else if quiet then .quiet else .normal

def name : Verbosity → String
  | .quiet => "Quiet"
  | .normal => "Normal"
  | .verbose => "Verbose"

/-- The most talkative level that is shown. -/
def level : Verbosity → Level
  | .quiet => .error
  | .normal => .info
  | .verbose => .debug

end Verbosity

/-- The rules of a filter, in the order in which they are written. -/
abbrev Filter : Type := List Rule

namespace Filter

/-- Read rules separated by commas. -/
def parse? (text : String) : Option Filter :=
  (Text.runs (· = ',') text.toList).mapM Rule.parse?

/-- The filter, or one that shows errors if it has no rule. -/
def orErrors (filter : Filter) : Filter :=
  if filter.isEmpty then [{ level := some .error }] else filter

/-- The filter of a verbosity; being verbose is limited to the program's own parts. -/
def ofVerbosity (v : Verbosity) : Filter :=
  match v with
  | .verbose =>
    { level := some .warn } ::
      ["catalog_index", "catalog_index_core", "catalog"].map fun lead =>
        { lead := some lead, level := some v.level }
  | _ => [{ level := some v.level }]

/-- The filter that is meant for this program, or else one that all programs share, or else the
verbosity. A text that cannot be read does not count. Without any rule, the first shows errors and
the second shows nothing. -/
def choose (v : Verbosity) (own shared : Option String) : Filter :=
  (((own.bind parse?).map orErrors).or (shared.bind parse?)).getD (ofVerbosity v)

/-- The rule that decides for an entry. No entry lies in a span, so rules that look inside spans
decide for none. -/
def ruleFor (filter : Filter) (e : Entry) : Option Rule :=
  (filter.filter fun r => !r.looksInside && r.concerns e).foldl (fun best r =>
    match best with
    | some b => if b.yieldsTo r then some r else best
    | none => some r) none

def allows (filter : Filter) (e : Entry) : Bool :=
  match (filter.ruleFor e).bind Rule.level with
  | some level => e.level.rank ≤ level.rank
  | none => false

end Filter

end CatalogSearch.Log
