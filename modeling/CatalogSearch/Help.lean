import CatalogSearch.CommandLine

/-!
# Help

What the program says about its own command line. The short form has one line an option; the full
form, which commands with a longer description use, sets every explanation on lines of its own.
-/
namespace CatalogSearch.Help

open CommandLine (Name Opt)

def summary : Option Name → String
  | none => "Catalog index: sync an OpenSearch index with the dataset catalog and query it"
  | some .init => "Initialize the database schema. Safe to run more than once"
  | some .seed => "Load datasets from a JSON Lines file into the database"
  | some .sync => "Rebuild the search index from the database"
  | some .compare => "Compare the database with the index"
  | some .search => "Search the index"
  | some .keywords => "List the most common keywords with their dataset counts"

def details? : Option Name → Option String
  | some .sync => some ("With an id or slug, indexes only that dataset and leaves every other " ++
      "document alone.")
  | some .search => some ("Query syntax: `\"exact phrase\"`, bare terms (all must match), and " ++
      "`OR` between alternatives.")
  | _ => none

/-- The name and the explanation of the word that a command takes. -/
def place? : Name → Option (String × String)
  | .seed => some ("<FILE>", "Path to the `.jsonl` file")
  | .sync => some ("[ID_OR_SLUG]", "Dataset id or slug to index on its own")
  | .search => some ("[QUERY]", "The search query string. Empty matches everything")
  | _ => none

def explanation (detailed full : Bool) : Opt → String
  | .config => "Path to configuration file (TOML)"
  | .verbose => "Debug-level logging"
  | .quiet => "Errors only"
  | .progress =>
    "Progress on stderr: `off`, `human`, or `json`. Defaults to `human` when stderr is a terminal"
  | .help =>
    if !detailed then "Print help"
    else if full then "Print help (see a summary with '-h')"
    else "Print help (see more with '--help')"
  | .version => "Print version"
  | .startPage => "First page to index (1-based). Earlier pages are skipped"
  | .perPage => "Records per page. Defaults to `[sync].per_page`"
  | .recreateIndex => "Drop and recreate the index with the current mapping first"
  | .sampleSize => "Ids listed per category. Defaults to `[reconcile].sample_size`"
  | .fix => "Index missing and updated datasets and delete extra documents"
  | .orgId => "Only datasets from this organization id"
  | .orgType => "Only datasets from organizations of these types (any)"
  | .keyword => "Only datasets carrying these keywords (all)"
  | .sort => "Sort: `relevance`, `popularity`, or `id`"
  | .start => "Offset of the first result"
  | .size => "Maximum number of keywords"
  | .minDocCount => "Only keywords used by at least this many datasets"

def explanationIn (name : Option Name) (full : Bool) (o : Opt) : String :=
  if name = some .search && o = .perPage then "Results per page"
  else explanation (details? name).isSome full o

def default? (name : Option Name) : Opt → Option String
  | .config => some CommandLine.defaultConfig
  | .startPage => some "1"
  | .perPage => if name = some .search then some "10" else none
  | .sort => some "relevance"
  | .start => some "0"
  | .size => some "100"
  | .minDocCount => some "1"
  | _ => none

def valueName : Opt → String
  | .orgType => "ORG_TYPES"
  | .keyword => "KEYWORDS"
  | o => String.ofList (o.word.toList.map fun c => if c = '-' then '_' else c.toUpper)

/-- An option with its letter and its value. -/
def label (o : Opt) : String :=
  (match o.letter? with
    | some c => s!"-{c}, "
    | none => "    ") ++ "--" ++ o.word ++ if o.takesValue then s!" <{valueName o}>" else ""

/-- The options of a page in the order in which they are shown. -/
def optionsOf : Option Name → List Opt
  | none => [.config, .verbose, .quiet, .progress, .help, .version]
  | some .sync =>
    [.config, .startPage, .perPage, .verbose, .quiet, .recreateIndex, .progress, .help]
  | some .compare => [.config, .sampleSize, .fix, .verbose, .quiet, .progress, .help]
  | some .search =>
    [.config, .orgId, .orgType, .verbose, .keyword, .quiet, .progress, .sort, .perPage, .start,
      .help]
  | some .keywords => [.config, .size, .minDocCount, .verbose, .quiet, .progress, .help]
  | some _ => [.config, .verbose, .quiet, .progress, .help]

def blanks (n : Nat) : String := String.ofList (List.replicate n ' ')

/-- A table of labels and explanations; the explanations begin in one column. -/
def table (rows : List (String × String)) : List String :=
  let column := 4 + (rows.map fun r => r.1.length).foldl max 0
  rows.map fun r => "  " ++ r.1 ++ blanks (column - 2 - r.1.length) ++ r.2

/-- Labels, each with its explanation and its default on lines below. -/
def sections (rows : List (String × String × Option String)) : List String :=
  let part (r : String × String × Option String) : List String :=
    ["  " ++ r.1, blanks 10 ++ r.2.1] ++
      (match r.2.2 with
        | some value => [blanks 10, blanks 10 ++ s!"[default: {value}]"]
        | none => [])
  List.intercalate [""] (rows.map part)

def withDefault (text : String) : Option String → String
  | some value => s!"{text} [default: {value}]"
  | none => text

/-- Rows as a table or, in the full form, as sections. -/
def rowsText (full : Bool) (rows : List (String × String × Option String)) : List String :=
  if full then sections rows else table (rows.map fun r => (r.1, withDefault r.2.1 r.2.2))

def usage (name : Option Name) : String :=
  match name with
  | none => "Usage: catalog [OPTIONS] <COMMAND>"
  | some n =>
    s!"Usage: catalog {n.word} [OPTIONS]" ++
      (match place? n with
        | some place => " " ++ place.1
        | none => "")

def helpSummary : String := "Print this message or the help of the given subcommand(s)"

def commandRows : List (String × String) :=
  (Name.all.map fun n => (n.word, summary (some n))) ++ [("help", helpSummary)]

def helpPage : List String :=
  [helpSummary, "", "Usage: catalog help [COMMAND]...", "", "Arguments:"] ++
    table [("[COMMAND]...", "Print help for the subcommand(s)")]

/-- The page about a command, or about the program as a whole. -/
def page (name : Option Name) (full : Bool) : List String :=
  let full := full && (details? name).isSome
  let about := match full, details? name with
    | true, some more => [summary name ++ ".", "", more]
    | _, _ => [summary name]
  let places := match name.bind place? with
    | some (word, text) =>
      ["Arguments:"] ++
        rowsText full [(word, text, if name = some .search then some "\"\"" else none)] ++ [""]
    | none => []
  let commands := if name.isNone then ["Commands:"] ++ table commandRows ++ [""] else []
  let options := (optionsOf name).map fun o =>
    (label o, explanationIn name full o, default? name o)
  about ++ ["", usage name, ""] ++ commands ++ places ++ ["Options:"] ++ rowsText full options

end CatalogSearch.Help
