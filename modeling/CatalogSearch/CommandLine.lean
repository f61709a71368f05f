import CatalogSearch.Index.Call
import CatalogSearch.Progress
import CatalogSearch.Text.Digits

/-!
# The command line

What the words of a command line ask for. Options that hold for the whole program can stand before
or after the name of the command; in the latter place they count more. No option may be given twice
in one place, except those that gather several values. Behind two dashes, words are taken as they
are.
-/
namespace CatalogSearch

inductive Errand where
  | init
  | seed (file : String)
  /-- Rebuild the index, or write one dataset. -/
  | sync (key : Option String) (startPage : Nat) (perPage : Option Nat) (recreate : Bool)
  /-- Compare database and index, and repair the index if asked to. -/
  | compare (sampleSize : Option Nat) (fix : Bool)
  | search (query : String) (filters : Index.Filters) (sort : Index.SortMode) (size start : Nat)
  | keywords (size minCount : Nat)
  deriving Repr

structure Invocation where
  config : String
  verbose : Bool
  quiet : Bool
  /-- How progress is shown, unless that is left to the program. -/
  progress : Option Progress.Mode
  errand : Errand
  deriving Repr

namespace CommandLine

/-- The commands. -/
inductive Name where
  | init | seed | sync | compare | search | keywords
  deriving DecidableEq, Repr

def Name.word : Name → String
  | .init => "init"
  | .seed => "seed"
  | .sync => "sync"
  | .compare => "compare"
  | .search => "search"
  | .keywords => "keywords"

def Name.all : List Name := [.init, .seed, .sync, .compare, .search, .keywords]

def Name.parse? (word : String) : Option Name :=
  Name.all.find? fun n => n.word = word

/-- How many words a command takes besides its options. -/
def Name.places : Name → Nat
  | .seed => 1
  | .sync => 1
  | .search => 1
  | _ => 0

inductive Opt where
  | config | verbose | quiet | progress | help | version
  | startPage | perPage | recreateIndex | sampleSize | fix
  | orgId | orgType | keyword | sort | start | size | minDocCount
  deriving DecidableEq, Repr

namespace Opt

/-- The word for an option, without its dashes. -/
def word : Opt → String
  | .config => "config"
  | .verbose => "verbose"
  | .quiet => "quiet"
  | .progress => "progress"
  | .help => "help"
  | .version => "version"
  | .startPage => "start-page"
  | .perPage => "per-page"
  | .recreateIndex => "recreate-index"
  | .sampleSize => "sample-size"
  | .fix => "fix"
  | .orgId => "org-id"
  | .orgType => "org-type"
  | .keyword => "keyword"
  | .sort => "sort"
  | .start => "from"
  | .size => "size"
  | .minDocCount => "min-doc-count"

def letter? : Opt → Option Char
  | .verbose => some 'v'
  | .quiet => some 'q'
  | .help => some 'h'
  | .version => some 'V'
  | _ => none

def takesValue : Opt → Bool
  | .verbose => false
  | .quiet => false
  | .help => false
  | .version => false
  | .recreateIndex => false
  | .fix => false
  | _ => true

/-- May the option be given several times? -/
def gathers : Opt → Bool
  | .orgType => true
  | .keyword => true
  | _ => false

/-- Why a value does not suit an option, if it does not. -/
def complaint? (o : Opt) (value : String) : Option String :=
  let number : Option String :=
    match Text.natural? value.toList with
    | some n => if n < twoTo 64 then none else some "number too large to fit in target type"
    | none => some "invalid digit found in string"
  match o with
  | .config => if value.isEmpty then some "a value is required" else none
  | .progress =>
    match Progress.Mode.parse value with
    | .ok _ => none
    | .error e => some e
  | .sort =>
    match Index.SortMode.parse value with
    | .ok _ => none
    | .error e => some e
  | .startPage => number
  | .perPage => number
  | .sampleSize => number
  | .start => number
  | .size => number
  | .minDocCount => number
  | _ => none

end Opt

/-- The options that hold for the whole program. -/
def globals : List Opt := [.config, .verbose, .quiet, .progress, .help]

/-- The options that stand before the name of a command. -/
def before : List Opt := globals ++ [.version]

def Name.options (n : Name) : List Opt :=
  globals ++ (match n with
    | .init => []
    | .seed => []
    | .sync => [.startPage, .perPage, .recreateIndex]
    | .compare => [.sampleSize, .fix]
    | .search => [.orgId, .orgType, .keyword, .sort, .perPage, .start]
    | .keywords => [.size, .minDocCount])

/-- The option of a word; syncing knows one of them in a second spelling. -/
def findWord (name : Option Name) (options : List Opt) (word : String) : Option Opt :=
  let word := if name = some .sync && word = "per_page" then "per-page" else word
  options.find? fun o => o.word = word

/-- Why a command line asks for nothing that can be done. -/
inductive Stop where
  /-- It asks for help, in full or in short. -/
  | help (name : Option Name) (full : Bool)
  | helpOnHelp
  | version
  /-- It is not understood. -/
  | misuse (text : String)
  deriving Repr

/-- The words of one part of a command line. -/
structure Part where
  /-- The command whose part it is; none before its name. -/
  name : Option Name
  /-- The options with their values, last first. -/
  options : List (Opt × String) := []
  /-- The other words, last first. -/
  places : List String := []
  /-- An option whose value came as a word of its own. It is looked at when another option comes or
  when the part is over, which for the part before a command is after the command's own part. -/
  pending : Option (Opt × String) := none
  deriving Repr

namespace Part

def allowed (p : Part) : List Opt :=
  match p.name with
  | some n => n.options
  | none => before

def record (o : Opt) (value : String) (p : Part) : Except Stop Part :=
  if !o.gathers && p.options.any (fun e => e.1 = o) then
    .error (.misuse s!"the argument '--{o.word}' cannot be used multiple times")
  else
    match o.complaint? value with
    | some text => .error (.misuse s!"invalid value '{value}' for '--{o.word}': {text}")
    | none => .ok { p with options := (o, value) :: p.options }

/-- Take note of the option that waits, if one does. -/
def settle (p : Part) : Except Stop Part :=
  match p.pending with
  | some (o, value) => { p with pending := none }.record o value
  | none => .ok p

/-- Add an option whose value stands in the same word or that has none. -/
def addOption (o : Opt) (value : String) (full : Bool) (p : Part) : Except Stop Part := do
  let p ← p.settle
  match o with
  | .help => throw (.help p.name full)
  | .version => throw .version
  | _ => p.record o value

/-- Add an option whose value is a word of its own. -/
def holdOption (o : Opt) (value : String) (p : Part) : Except Stop Part := do
  return { ← p.settle with pending := some (o, value) }

def addLetters : List Char → Part → Except Stop Part
  | [], p => .ok p
  | c :: rest, p =>
    match p.allowed.find? fun o => o.letter? = some c with
    | none => .error (.misuse s!"unexpected argument '-{c}' found")
    | some o => do addLetters rest (← p.addOption o "" false)

def addPlace (word : String) (p : Part) : Except Stop Part :=
  match p.name with
  | none => .error (.misuse s!"unrecognized subcommand '{word}'")
  | some n =>
    if n.places ≤ p.places.length then .error (.misuse s!"unexpected argument '{word}' found")
    else if n = .seed && word.isEmpty then .error (.misuse "a value is required for '<FILE>'")
    else .ok { p with places := word :: p.places }

def addPlaces : List String → Part → Except Stop Part
  | [], p => .ok p
  | word :: rest, p => do addPlaces rest (← p.addPlace word)

/-- Does the word begin like an option? -/
def isDashed (word : String) : Bool :=
  Text.startsWith "-" word && word ≠ "-"

def values (o : Opt) (p : Part) : List String :=
  (p.options.reverse.filter fun e => e.1 = o).map (·.2)

def value? (o : Opt) (p : Part) : Option String := (p.values o).head?

def has (o : Opt) (p : Part) : Bool := (p.value? o).isSome

def number? (o : Opt) (p : Part) : Option Nat :=
  (p.value? o).bind fun v => Text.natural? v.toList

end Part

/-- What one word of a part comes to. -/
inductive Step where
  /-- The part grows; the next word may belong to this one. -/
  | grow (p : Part) (takesNext : Bool)
  | command (n : Name)
  deriving Repr

/-- What a request for help on a command asks for. -/
def askHelp : List String → Stop
  | [] => .help none true
  | word :: rest =>
    match Name.parse? word, rest with
    | some n, [] => .help (some n) true
    | _, _ =>
      if word = "help" && rest.isEmpty then .helpOnHelp
      else .misuse s!"unrecognized subcommand '{word}'"

/-- Read an option that is written out; `next` is the word behind it. -/
def readLong (p : Part) (body : List Char) (next : Option String) : Except Stop Step := do
  let (name, attached) := Text.splitAt (· = '=') body
  match findWord p.name p.allowed (String.ofList name) with
  | none => throw (.misuse s!"unexpected argument '--{String.ofList body}' found")
  | some o =>
    match o.takesValue, attached, next with
    | true, some value, _ => return .grow (← p.addOption o (String.ofList value) true) false
    | true, none, none => throw (.misuse s!"a value is required for '--{o.word}'")
    | true, none, some value =>
      if Part.isDashed value then throw (.misuse s!"a value is required for '--{o.word}'")
      return .grow (← p.holdOption o value) true
    | false, some value, _ =>
      throw (.misuse s!"unexpected value '{String.ofList value}' for '--{o.word}'")
    | false, none, _ => return .grow (← p.addOption o "" true) false

/-- Read a word that is no option; `rest` stands behind it. -/
def readPlace (p : Part) (word : String) (rest : List String) : Except Stop Step :=
  match if p.name.isNone then Name.parse? word else none with
  | some n => .ok (.command n)
  | none =>
    if p.name.isNone && word = "help" then .error (askHelp rest)
    else (p.addPlace word).map fun p => .grow p false

/-- Read one word other than two dashes; `rest` stands behind it. -/
def readWord (p : Part) (word : String) (rest : List String) : Except Stop Step :=
  if Text.startsWith "--" word then readLong p (word.toList.drop 2) rest.head?
  else if Part.isDashed word then (p.addLetters (word.toList.drop 1)).map fun p => .grow p false
  else readPlace p word rest

/-- Read the words of a part up to its end or to the name of a command, which is returned with the
words behind it. -/
def readPart (p : Part) : List String → Except Stop (Part × Option (Name × List String))
  | [] => .ok (p, none)
  | word :: rest =>
    if word = "--" then (p.addPlaces rest).map (·, none)
    else
      match readWord p word rest with
      | .error stop => .error stop
      | .ok (.command n) => .ok (p, some (n, rest))
      | .ok (.grow p false) => readPart p rest
      | .ok (.grow p true) =>
        match rest with
        | [] => .ok (p, none)
        | _ :: rest => readPart p rest

def errandOf (n : Name) (p : Part) : Except Stop Errand :=
  match n with
  | .init => .ok .init
  | .seed =>
    match p.places.getLast? with
    | some file => .ok (.seed file)
    | none => .error (.misuse "the following required arguments were not provided: <FILE>")
  | .sync =>
    .ok (.sync p.places.getLast? ((p.number? .startPage).getD 1) (p.number? .perPage)
      (p.has .recreateIndex))
  | .compare => .ok (.compare (p.number? .sampleSize) (p.has .fix))
  | .search =>
    let sort := match (p.value? .sort).map Index.SortMode.parse with
      | some (.ok mode) => mode
      | _ => .relevance
    .ok (.search (p.places.getLast?.getD "")
      { orgId := p.value? .orgId, orgTypes := p.values .orgType, keywords := p.values .keyword }
      sort ((p.number? .perPage).getD 10) ((p.number? .start).getD 0))
  | .keywords => .ok (.keywords ((p.number? .size).getD 100) ((p.number? .minDocCount).getD 1))

def defaultConfig : String := "./config/catalog.toml"

def invocationOf (first second : Part) (errand : Errand) : Invocation :=
  let value? (o : Opt) : Option String := second.value? o <|> first.value? o
  { config := (value? .config).getD defaultConfig
    verbose := first.has .verbose || second.has .verbose
    quiet := first.has .quiet || second.has .quiet
    progress := (value? .progress).bind fun v => (Progress.Mode.parse v).toOption
    errand }

def parse (words : List String) : Except Stop Invocation := do
  match ← readPart { name := none } words with
  | (_, none) =>
    throw (.misuse "a subcommand is required but one was not provided")
  | (first, some (n, rest)) =>
    let (second, _) ← readPart { name := some n } rest
    let second ← second.settle
    let errand ← errandOf n second
    return invocationOf (← first.settle) second errand

end CommandLine

end CatalogSearch
