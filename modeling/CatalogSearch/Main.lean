import CatalogSearch.Program
import CatalogSearch.Store.Snapshot

/-!
# Entry point

Gathers the world of a command from the machine, runs the program on it, and shows what came of
it. There is no line to a cluster here: every request breaks off.
-/
namespace CatalogSearch

open Command (Files Node Output World)

def readText (path : String) : IO (Option String) := do
  try
    return some (← IO.FS.readFile path)
  catch _ => return none

def readNode (path : String) : IO (Option Node) := do
  let place := (← IO.currentDir) / path
  if ← place.isDir then return some .directory
  else
    match ← readText path with
    | some text => return some (.text text)
    | none => return if ← place.pathExists then some .binary else none

def gatherAlong (above : List String) : List String → Files → IO Files
  | [], files => return files
  | part :: rest, files => do
    let here := Files.settle above [part]
    match ← readNode (Files.pathOf here) with
    | some node => gatherAlong here rest (files.put here node)
    | none => gatherAlong here rest files

def gatherPath (path : String) (files : Files) : IO Files :=
  gatherAlong (files.start path) (Files.parts path) files

def gatherEnvironment : IO Cluster.Environment := do
  let pairs ← Program.relevantVariables.filterMapM fun name => do
    return (← IO.getEnv name).map fun value => (name, value)
  return Keyed.ofList pairs

/-- Take the file at some names for a database if it holds one. -/
def takeForDatabase (names : List String) (files : Files) : Files :=
  match files.node? names with
  | some (.text text) =>
    match if text.isEmpty then some {} else Store.Database.ofText? text with
    | some db => files.put names (.database db)
    | none => files
  | _ => files

def gatherDatabase (path : String) (w : World) : IO World := do
  match Store.Locator.ofPath path with
  | .error _ => return w
  | .ok l =>
    let files ← gatherPath path (← gatherPath l.path w.files)
    return { w with files := takeForDatabase (files.namesOf l.path) files }

/-- A random number of 122 bits. -/
def randomNumber : IO Nat := do
  return (← IO.rand 0 (twoTo 61 - 1)) * twoTo 61 + (← IO.rand 0 (twoTo 61 - 1))

def gatherWorld (words : List String) : IO World := do
  let terminal ← (← IO.getStderr).isTty
  let start ← randomNumber
  let stride ← randomNumber
  let files ← (Program.filesOf words).foldlM (fun files path => gatherPath path files)
    (Files.startingAt (toString (← IO.currentDir)))
  let w : World := {
    files
    environment := ← gatherEnvironment
    terminal
    link := { otherwise := .dropped }
    -- An odd step leads through all numbers of 122 bits before one comes again.
    ids := fun i => Seed.randomId (start + i * (2 * stride + 1)) }
  match Program.databaseOf words w with
  | none => return w
  | some path => gatherDatabase path w

/-- Keep what a command made: directories, databases and files that were not there before. -/
def keepFiles (before after : Files) : IO Unit :=
  after.nodes.forM fun (path, node) => do
    match node with
    | .directory => IO.FS.createDirAll path
    | .database db => IO.FS.writeFile path db.toText
    | .text content =>
      if !Keyed.contains path before.nodes then IO.FS.writeFile path content
    | .binary => pure ()

def present (showsTargets : Bool) : Output → IO Unit
  | .line text => IO.println text
  | .progress text => IO.eprintln text
  | .entry e => IO.eprintln (e.line showsTargets)
  | .reason text => IO.eprintln text
  | .pause span => IO.sleep (UInt32.ofNat (span.nanos / 1000000))

end CatalogSearch

def main (words : List String) : IO UInt32 := do
  let before ← CatalogSearch.gatherWorld words
  let (code, after) := CatalogSearch.Program.run words before
  CatalogSearch.keepFiles before.files after.files
  after.output.forM (CatalogSearch.present (CatalogSearch.Program.showsTargets words))
  return UInt32.ofNat code
