import CatalogSearch.Keyed
import CatalogSearch.Store.Tables
import CatalogSearch.Text.Blank

/-!
# Files

A tree of directories, files and databases. A path is walked part by part from the root or from the
working directory: every part but the last must lead to a directory, `.` stays where it is and `..`
goes up. Databases are found in another way: their path is put in order first, so that a detour may
lead through directories that do not exist.
-/
namespace CatalogSearch.Command

open Store (Database)

inductive Node where
  | directory
  | text (content : String)
  /-- A file whose bytes are no text. -/
  | binary
  | database (db : Database)
  deriving Repr, Inhabited

inductive FileError where
  | notFound | exists | notDirectory | isDirectory | nameTooLong | notText | zeroInName
  deriving DecidableEq, Repr

def FileError.message : FileError → String
  | .notFound => "No such file or directory (os error 2)"
  | .exists => "File exists (os error 17)"
  | .notDirectory => "Not a directory (os error 20)"
  | .isDirectory => "Is a directory (os error 21)"
  | .nameTooLong => "File name too long (os error 36)"
  | .notText => "stream did not contain valid UTF-8"
  | .zeroInName => "file name contained an unexpected NUL byte"

structure Files where
  /-- Where relative paths begin: the names that lead there from the root. -/
  working : List String := []
  /-- What stands in the tree, under absolute paths without detours. -/
  nodes : List (String × Node) := []
  deriving Repr, Inhabited

namespace Files

def parts (path : String) : List String :=
  (Text.pieces (· = '/') path.toList).map String.ofList

/-- The absolute path of the names that lead somewhere from the root. -/
def pathOf (names : List String) : String :=
  "/" ++ String.intercalate "/" names

def isAbsolute (path : String) : Bool := Text.startsWith "/" path

/-- The names that lead to where a path begins. -/
def start (fs : Files) (path : String) : List String :=
  if isAbsolute path then [] else fs.working

/-- What stands where some names lead; the root is a directory. -/
def node? (fs : Files) (names : List String) : Option Node :=
  if names.isEmpty then some .directory else Keyed.find? (pathOf names) fs.nodes

def put (names : List String) (node : Node) (fs : Files) : Files :=
  { fs with nodes := Keyed.insert (pathOf names) node fs.nodes }

/-- Make sure that there are directories all the way, which starts with the names `above`. -/
def addDirectories (above : List String) : List String → Files → Files
  | [], fs => fs
  | name :: rest, fs =>
    let here := above ++ [name]
    addDirectories here rest (if (fs.node? here).isSome then fs else fs.put here .directory)

/-- Put something where some names lead, and directories on the way. -/
def add (names : List String) (node : Node) (fs : Files) : Files :=
  (addDirectories [] names.dropLast fs).put names node

/-- Where the parts of a path lead from some names on, whether anything stands there or not. -/
def settle (above : List String) : List String → List String
  | [] => above
  | part :: rest =>
    if part.isEmpty || part = "." then settle above rest
    else if part = ".." then settle above.dropLast rest
    else settle (above ++ [part]) rest

/-- The names that a path leads to, whether anything stands there or not. -/
def namesOf (fs : Files) (path : String) : List String :=
  settle (fs.start path) (parts path)

/-- A tree that holds nothing but the way to a working directory. -/
def startingAt (path : String) : Files :=
  let working := settle [] (parts path)
  addDirectories [] working { working }

/-- Longest name, in bytes. -/
def nameLimit : Nat := 255

/-- One more than the longest path, in bytes. -/
def pathLimit : Nat := 4096

/-- Where a path leads: to something, or to a name in a directory that is still free. -/
inductive Place where
  | taken (names : List String) (node : Node)
  | free (names : List String)
  deriving Repr

def walkFrom (fs : Files) (above : List String) : List String → Except FileError Place
  | [] => .ok (.taken above .directory)
  | part :: rest =>
    if part.isEmpty || part = "." then walkFrom fs above rest
    else if part = ".." then walkFrom fs above.dropLast rest
    else if nameLimit < part.utf8ByteSize then .error .nameTooLong
    else
      let here := above ++ [part]
      match fs.node? here with
      | none => if rest.all String.isEmpty then .ok (.free here) else .error .notFound
      | some .directory => walkFrom fs here rest
      | some node => if rest.isEmpty then .ok (.taken here node) else .error .notDirectory

def walk (fs : Files) (path : String) : Except FileError Place :=
  if path.contains '\x00' then .error .zeroInName
  else if path.isEmpty then .error .notFound
  else if pathLimit ≤ path.utf8ByteSize then .error .nameTooLong
  else walkFrom fs (fs.start path) (parts path)

def isDirectory (fs : Files) (path : String) : Bool :=
  match fs.walk path with
  | .ok (.taken _ .directory) => true
  | _ => false

/-- What a database without tables shows when it is read as a text. -/
def emptyDatabaseText : String := "SQLite format 3\x00"

/-- The text of a file. The bytes of a database are no text once it has tables. -/
def read (fs : Files) (path : String) : Except FileError String :=
  match fs.walk path with
  | .error e => .error e
  | .ok (.free _) => .error .notFound
  | .ok (.taken _ .directory) => .error .isDirectory
  | .ok (.taken _ (.text content)) => .ok content
  | .ok (.taken _ .binary) => .error .notText
  | .ok (.taken _ (.database db)) =>
    if db.tables.isNone then .ok emptyDatabaseText else .error .notText

def makeDirectory (path : String) (fs : Files) : Except FileError Files :=
  match fs.walk path with
  | .error e => .error e
  | .ok (.taken _ _) => .error .exists
  | .ok (.free names) => .ok (fs.put names .directory)

/-- Make the directory of a path whose parts are given last first, and those above it as far as
they are missing. What was made before a failure stays. -/
def makeAll (absolute : Bool) : List String → Files → Option FileError × Files
  | [], fs => (none, fs)
  | part :: above, fs =>
    let path := (if absolute then "/" else "") ++ String.intercalate "/" (part :: above).reverse
    match fs.makeDirectory path with
    | .ok fs => (none, fs)
    | .error .notFound =>
      match makeAll absolute above fs with
      | (some e, fs) => (some e, fs)
      | (none, fs) =>
        match fs.makeDirectory path with
        | .ok fs => (none, fs)
        | .error e => (if fs.isDirectory path then none else some e, fs)
    | .error e => (if fs.isDirectory path then none else some e, fs)

/-- Make the directory that a path stands in. Slashes at its end and dots inside it do not count as
parts. -/
def makeParent (path : String) (fs : Files) : Option FileError × Files :=
  let isPart (i : Nat) (part : String) : Bool := !part.isEmpty && (part ≠ "." || i = 0)
  let names := ((parts path).zipIdx.filter fun e => isPart e.2 e.1).map (·.1)
  makeAll (isAbsolute path) names.reverse.tail fs

/-- Longest absolute path of a database, in bytes. -/
def databasePathLimit : Nat := 511

/-- Longest name of a database, in bytes; a longer one leaves no room for the name of its
journal. -/
def databaseNameLimit : Nat := 247

/-- Put the path of a database in order, but not if it leads through a file. -/
def arrange (fs : Files) (above : List String) : List String → Option (List String)
  | [] => some above
  | part :: rest =>
    if part.isEmpty || part = "." then arrange fs above rest
    else if part = ".." then arrange fs above.dropLast rest
    else
      let here := above ++ [part]
      if databasePathLimit < (pathOf here).utf8ByteSize then none
      else
        match fs.walkFrom [] here with
        | .ok _ => arrange fs here rest
        | .error .notFound => arrange fs here rest
        | .error _ => none

/-- The names that lead to a database, unless its path cannot be put in order. -/
def databaseNames? (fs : Files) (path : String) : Option (List String) :=
  (arrange fs (fs.start path) (parts path)).bind fun names =>
    if names.isEmpty then none else some names

end Files

end CatalogSearch.Command
