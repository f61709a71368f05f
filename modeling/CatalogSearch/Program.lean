import CatalogSearch.Command.Compare
import CatalogSearch.Command.Load
import CatalogSearch.Command.Search
import CatalogSearch.Help
import CatalogSearch.Log.Filter

/-!
# The program

A command line is read, the configuration is loaded, and the command is run against the world. The
exit code is zero if that succeeds, one if the command fails, two if the command line is not
understood.
-/
namespace CatalogSearch.Program

open Command (Action Output Stop World)

def versionLine : String := "catalog 0.3.0"

/-- A cause, indented; one of several is numbered. -/
def causeLines (number : Option Nat) (text : String) : List String :=
  let (lead, indent) := match number with
    | some n => (Text.rightAligned 5 n ++ ": ", "       ")
    | none => ("    ", "    ")
  match (Text.pieces (· = '\n') text.toList).map String.ofList with
  | [] => []
  | first :: rest => (lead ++ first) :: rest.map (indent ++ ·)

/-- Why a command failed, the outermost reason first. -/
def failureLines (f : Failure) : List String :=
  s!"Error: {f.text}" ::
    (match f.levels.tail with
      | [] => []
      | [cause] => ["", "Caused by:"] ++ causeLines none cause
      | causes => ["", "Caused by:"] ++
          causes.zipIdx.flatMap fun cause => causeLines (some cause.2) cause.1)

def loadConfig (path : String) : Action Config := do
  let w ← get
  let (outcome, log) := Config.load path (w.read path) (w.environment.get? "OPENSEARCH_HOST")
  set { w with output := w.output ++ log.map Output.entry }
  Action.ofOutcome outcome

def execute (i : Invocation) : Action Unit := do
  let config ← loadConfig i.config
  let w ← get
  let mode := i.progress.getD (if w.terminal then .human else .off)
  match i.errand with
  | .init => do
    Command.InitRun.run config
    Action.print "Database initialized successfully."
  | .seed file => Command.SeedRun.run config file
  | .sync key startPage perPage recreate =>
    Command.SyncRun.run config key startPage perPage recreate mode
  | .compare sampleSize fix => Command.CompareRun.run config sampleSize fix mode
  | .search query filters sort size start =>
    Command.SearchRun.run config query filters sort size start
  | .keywords size minCount => Command.KeywordsRun.run config size minCount

def logFilter (v : Log.Verbosity) (env : Cluster.Environment) : Log.Filter :=
  Log.Filter.choose v (env.get? "CATALOG_LOG") (env.get? "RUST_LOG")

def verbosityOf (i : Invocation) : Log.Verbosity := .ofFlags i.verbose i.quiet

def isShown (filter : Log.Filter) : Output → Bool
  | .entry e => filter.allows e
  | _ => true

/-- Run a command; the entries that the filter of the log holds back are not shown. -/
def runInvocation (i : Invocation) (w : World) : Nat × World :=
  let filter := logFilter (verbosityOf i) w.environment
  let (outcome, w) := (execute i).run w
  let w := { w with output := w.output.filter (isShown filter) }
  match outcome with
  | .ok () => (0, w)
  | .error (.failure f) =>
    (1, w.display (.reason (String.intercalate "\n" (failureLines f))))
  | .error (.fault text) => (101, w.display (.reason text))

/-- Show lines on standard output and end well. -/
def answerLines (lines : List String) (w : World) : Nat × World :=
  (0, { w with output := w.output ++ lines.map Output.line })

def run (words : List String) (w : World) : Nat × World :=
  match CommandLine.parse words with
  | .ok i => runInvocation i w
  | .error .version => answerLines [versionLine] w
  | .error (.help name full) => answerLines (Help.page name full) w
  | .error .helpOnHelp => answerLines Help.helpPage w
  | .error (.misuse text) => (2, w.display (.reason s!"error: {text}"))

/-- Are the entries of the log shown with the part of the program that speaks? -/
def showsTargets (words : List String) : Bool :=
  match CommandLine.parse words with
  | .ok i => verbosityOf i = .verbose
  | .error _ => false

def filesOf (words : List String) : List String :=
  match CommandLine.parse words with
  | .ok i =>
    match i.errand with
    | .seed file => [i.config, file]
    | _ => [i.config]
  | .error _ => []

def databaseOf (words : List String) (w : World) : Option String :=
  match CommandLine.parse words with
  | .ok i => ((Config.load i.config (w.read i.config) none).1.toOption).map Config.dbPath
  | .error _ => none

def relevantVariables : List String :=
  ["OPENSEARCH_HOST", "OPENSEARCH_ACCESS_KEY", "OPENSEARCH_SECRET_KEY", "OPENSEARCH_SESSION_TOKEN",
    "CATALOG_LOG", "RUST_LOG"]

end CatalogSearch.Program
