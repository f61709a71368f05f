import CatalogSearch.Store.Tables
import CatalogSearch.Text.Blank
import CatalogSearch.Text.Quoted
import CatalogSearch.Text.Utf8

/-!
# Locators of databases

The text that names a database: a file name in percent coding, and behind a question mark
parameters that say how the database is opened. A database may be kept in memory, where it lasts as
long as the command.
-/
namespace CatalogSearch.Store

/-- What a database is, and how it is opened. -/
structure Locator where
  file : String
  inMemory : Bool := false
  readOnly : Bool := false
  /-- Does no one change it? It can then only be read, but it is created if it is missing. -/
  immutable : Bool := false
  system : Option String := none
  deriving DecidableEq, Repr

namespace Locator

def unreadable (text : String) : Failure :=
  .context s!"error with configuration: {text}" (.message text)

def unknownValue (name value : String) : Failure :=
  unreadable s!"unknown value {Text.quoted value} for `{name}`"

/-- The text behind all copies of `lead` that it begins with; `fuel` bounds their number. -/
def dropCopies (lead : List Char) : Nat → List Char → List Char
  | 0, s => s
  | fuel + 1, s => if lead.isPrefixOf s then dropCopies lead fuel (s.drop lead.length) else s

/-- The text behind the words that say what kind of database it names. -/
def dropKind (s : List Char) : List Char :=
  let s := dropCopies "sqlite://".toList s.length s
  dropCopies "sqlite:".toList s.length s

/-- A text of a form: a plus sign is a blank, and percent codes are read. -/
def formText (s : List Char) : String :=
  Text.repairUtf8 (Text.uriDecode (s.map fun c => if c = '+' then ' ' else c))

def formPairs (s : List Char) : List (String × String) :=
  (Text.runs (· = '&') s).map fun pair =>
    let (name, value) := Text.splitAt (· = '=') pair
    (formText name, formText (value.getD []))

def setParameter (l : Locator) (name value : String) : Except Failure Locator :=
  match name with
  | "mode" =>
    match value with
    | "ro" => .ok { l with readOnly := true }
    | "rw" => .ok l
    | "rwc" => .ok l
    | "memory" => .ok { l with inMemory := true }
    | _ => .error (unknownValue name value)
  | "cache" =>
    match value with
    | "private" => .ok l
    | "shared" => .ok l
    | _ => .error (unknownValue name value)
  | "immutable" =>
    match value with
    | "true" => .ok { l with immutable := true }
    | "1" => .ok { l with immutable := true }
    | "false" => .ok { l with immutable := false }
    | "0" => .ok { l with immutable := false }
    | _ => .error (unknownValue name value)
  | "vfs" => .ok { l with system := some value }
  | _ => .error (unreadable s!"unknown query parameter `{name}` while parsing connection URL")

def setParameters (l : Locator) : List (String × String) → Except Failure Locator
  | [] => .ok l
  | (name, value) :: rest => (l.setParameter name value).bind fun l => setParameters l rest

def memoryName : String := ":memory:"

def parse (text : String) : Except Failure Locator :=
  let (name, parameters) := Text.splitAt (· = '?') (dropKind text.toList)
  let pairs := formPairs (parameters.getD [])
  if name = memoryName.toList then setParameters { file := "", inMemory := true } pairs
  else
    match Text.readUtf8 (Text.uriDecode name) with
    | .error e => .error (unreadable e)
    | .ok file => setParameters { file } pairs

def ofPath (path : String) : Except Failure Locator := parse ("sqlite:" ++ path)

/-- The host and the path of a file name that is written as a URL; any other file name is its own
path. -/
def hostAndPath (l : Locator) : String × String :=
  match l.file.toList with
  | 'f' :: 'i' :: 'l' :: 'e' :: ':' :: rest =>
    let (host, path) := match rest with
      | '/' :: '/' :: rest => rest.span (· ≠ '/')
      | _ => ([], rest)
    let path := path.takeWhile fun c => c ≠ '?' && c ≠ '#'
    (String.ofList host, Text.repairUtf8 (Text.uriDecode path))
  | _ => ("", l.file)

def path (l : Locator) : String := l.hostAndPath.2

def memorySystem : String := "memdb"

def knownSystems : List String :=
  ["unix", "unix-none", "unix-dotfile", "unix-excl", memorySystem]

def isTransient (l : Locator) : Bool :=
  l.inMemory || l.path.isEmpty || l.path = memoryName || l.system = some memorySystem

/-- Why no file can be looked for, if so. -/
def fault? (l : Locator) : Option Failure :=
  let host := l.hostAndPath.1
  if l.file.contains '\x00' then some (
    let text := "filename passed to SQLite must not contain nul bytes"
    .context s!"error communicating with database: {text}" (.message text))
  else if !host.isEmpty && host ≠ "localhost" then
    some (databaseError 1 s!"invalid uri authority: {host}")
  else
    match l.system with
    | some name =>
      if knownSystems.contains name then none else some (databaseError 1 s!"no such vfs: {name}")
    | none => none

end Locator

end CatalogSearch.Store
