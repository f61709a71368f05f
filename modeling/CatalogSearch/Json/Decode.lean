import CatalogSearch.Json.Skip

/-!
# Typed reading

Records are read from JSON by one description that serves two sources: a value that is already
in memory, and a text that is read as far as the first thing that does not fit. A record is an
object with named members, of which unknown ones are passed over, or an array with the members in
the order of their declaration.
-/
namespace CatalogSearch.Json

/-- A record of so many members, in an error text. -/
def lengthText (title : String) (count : Nat) : String :=
  s!"struct {title} with {count} " ++ if count = 1 then "element" else "elements"

def isSigned64 (n : Int) : Bool := -(twoTo 63 : Int) ≤ n && n < twoTo 63

/-- How the members of a record of type `α` are gathered in slots of type `σ`. -/
structure Layout (m : Type → Type) (σ α : Type) where
  /-- The record's name in error texts. -/
  title : String
  /-- The members' names in the order of their declaration. -/
  names : List String
  empty : σ
  /-- Read the member with a name into its slot; `none` for a name that the record lacks. -/
  put : String → Option (σ → m σ)
  /-- Is the slot of a name filled? -/
  seen : String → σ → Bool
  /-- The record of the filled slots, or the name of the first member that is missing. -/
  finish : σ → Except String α

/-- A place to read typed parts from. -/
class Source (m : Type → Type) extends Monad m where
  text : m String
  /-- Read a whole number of 64 bits with a sign. -/
  integer : m Int
  value : m Json
  /-- Read a part or `null`. -/
  optional {α : Type} : m α → m (Option α)
  texts : m (List String)
  record {σ α : Type} : Layout m σ α → m α

/-- Typed reading of a value in memory. -/
def FromValue (α : Type) : Type := Json → Except String α

namespace FromValue

def embedded : Json → Except String Json
  | .str text => parse text
  | v => .error (wrongType v embeddedKind)

instance : Monad FromValue where
  pure a := fun _ => .ok a
  bind x f := fun v => (x v).bind fun a => f a v

mutual

/-- Any value. An object whose first member has the name of an embedded text stands for the value
that the text holds, and must have no other members. -/
def value : Json → Except String Json
  | .arr items => (values items).map .arr
  | .obj members =>
    match members.head? with
    | some (name, first) =>
      if name = embeddedName then do
        let inner ← embedded first
        if members.length = 1 then return inner
        throw s!"invalid length {members.length}, expected fewer elements in map"
      else (memberValues members).map .obj
    | none => .ok (.obj members)
  | v => .ok v

def values : List Json → Except String (List Json)
  | [] => .ok []
  | v :: rest => do return (← value v) :: (← values rest)

def memberValues : List (String × Json) → Except String (List (String × Json))
  | [] => .ok []
  | (name, v) :: rest => do return (name, ← value v) :: (← memberValues rest)

end

def text : FromValue String
  | .str s => .ok s
  | v => .error (wrongType v "a string")

def integer : FromValue Int
  | .int n => if isSigned64 n then .ok n else .error (wrongValue (.int n) "i64")
  | v => .error (wrongType v "i64")

def optional {α : Type} (part : FromValue α) : FromValue (Option α)
  | .null => .ok none
  | v => (part v).map some

def texts : FromValue (List String)
  | .arr items => items.mapM text
  | v => .error (wrongType v "a sequence")

/-- Fill the slots from named members in their order. -/
def fill {σ α : Type} (layout : Layout FromValue σ α) :
    List (String × Json) → σ → Except String σ
  | [], slots => .ok slots
  | (name, v) :: rest, slots =>
    match layout.put name with
    | none => fill layout rest slots
    | some read => (read slots v).bind (fill layout rest)

/-- A record from an object or from an array of its members. -/
def record {σ α : Type} (layout : Layout FromValue σ α) : FromValue α
  | .obj members => do
    let slots ← fill layout members layout.empty
    match layout.finish slots with
    | .ok a => .ok a
    | .error name => .error s!"missing field `{name}`"
  | .arr items => do
    let slots ← fill layout (layout.names.zip items) layout.empty
    match layout.finish slots with
    | .error name =>
      .error (s!"invalid length {layout.names.idxOf name}, expected " ++
        lengthText layout.title layout.names.length)
    | .ok a =>
      if layout.names.length < items.length then
        .error s!"invalid length {items.length}, expected fewer elements in array"
      else .ok a
  | v => .error (wrongType v s!"struct {layout.title}")

instance : Source FromValue where
  text := text
  integer := integer
  value := value
  optional := optional
  texts := texts
  record := record

end FromValue

/-- Typed reading of a text, with the nesting that is still allowed. -/
def FromText (α : Type) : Type := Nat → Cursor → Reading α

namespace FromText

instance : Monad FromText where
  pure a := fun _ cur => .ok (a, cur)
  bind x f := fun depth cur => (x depth cur).bind fun r => f r.1 depth r.2

def text : FromText String := fun _ cur =>
  let cur := cur.skipBlanks
  match cur.peek with
  | some '"' => readString cur
  | _ => refuse "a string" cur

def integer : FromText Int := fun _ cur =>
  let cur := cur.skipBlanks
  match cur.peek with
  | none => failAhead cur .eofInValue
  | some c =>
    if c = '-' || Text.isDigit c then
      match readScalar c cur with
      | .error e => .error e
      | .ok (v, cur) =>
        match FromValue.integer v with
        | .ok n => .ok (n, cur)
        | .error e => .error (cur.place.describe e)
    else refuse "i64" cur

def optional {α : Type} (part : FromText α) : FromText (Option α) := fun depth cur =>
  let cur := cur.skipBlanks
  match cur.peek with
  | some 'n' => (readIdent ['u', 'l', 'l'] cur.next).map (none, ·)
  | _ => (part depth cur).map fun r => (some r.1, r.2)

def texts : FromText (List String) := fun depth cur =>
  let cur := cur.skipBlanks
  match cur.peek with
  | some '[' =>
    if depth = 0 then failAhead cur .recursionLimit
    else readElements (text depth) [] true (cur.rest.length + 1) cur.next
  | _ => refuse "a sequence" cur

/-- Fail with a record as a whole, behind its closing brace if that is next. -/
def failInObject {α : Type} (message : String) (cur : Cursor) : Reading α :=
  let cur := cur.skipBlanks
  let cur := if cur.peek = some '\x7d' then cur.next else cur
  .error (cur.place.describe message)

/-- Fail with a record as a whole, behind its closing bracket if that is next. -/
def failInArray {α : Type} (message : String) (cur : Cursor) : Reading α :=
  let cur := cur.skipBlanks
  let cur :=
    if cur.peek = some ']' then cur.next
    else if cur.peek = some ',' then cur.next.skipBlanks
    else cur
  .error (cur.place.describe message)

/-- The members of an object up to its closing brace. -/
def members {σ α : Type} (layout : Layout FromText σ α) (depth : Nat) (slots : σ) (first : Bool) :
    Nat → Cursor → Reading α
  | 0, cur => failAhead cur .eofInObject
  | fuel + 1, cur =>
    match nextKey first cur with
    | .error e => .error e
    | .ok (false, cur) =>
      match layout.finish slots with
      | .ok a => .ok (a, cur.next)
      | .error name => failInObject s!"missing field `{name}`" cur
    | .ok (true, cur) =>
      match readString cur with
      | .error e => .error e
      | .ok (name, cur) =>
        match layout.put name with
        | none =>
          match (passColon cur).bind fun cur => skipValue (2 * cur.rest.length + 2) cur with
          | .error e => .error e
          | .ok cur => members layout depth slots false fuel cur
        | some read =>
          if layout.seen name slots then failInObject s!"duplicate field `{name}`" cur
          else
            match (passColon cur).bind (read slots depth) with
            | .error e => .error e
            | .ok (slots, cur) => members layout depth slots false fuel cur

/-- The elements of an array that stands for a record, up to its closing bracket. -/
def elements {σ α : Type} (layout : Layout FromText σ α) (depth : Nat) (slots : σ) (first : Bool) :
    List String → Cursor → Reading α
  | [], cur =>
    match layout.finish slots with
    | .error name => failInArray (short name) cur
    | .ok a =>
      let cur := cur.skipBlanks
      match cur.peek with
      | some ']' => .ok (a, cur.next)
      | some ',' =>
        let cur := cur.next.skipBlanks
        if cur.peek = some ']' then failAhead cur .trailingComma
        else failAhead cur .trailingCharacters
      | some _ => failAhead cur .trailingCharacters
      | none => failAhead cur .eofInList
  | name :: rest, cur =>
    match nextElement first cur with
    | .error e => .error e
    | .ok (false, cur) =>
      match layout.finish slots with
      | .error name => failInArray (short name) cur
      | .ok a => .ok (a, cur.next)
    | .ok (true, cur) =>
      match layout.put name with
      | none => elements layout depth slots false rest cur
      | some read =>
        match read slots depth cur with
        | .error e => .error e
        | .ok (slots, cur) => elements layout depth slots false rest cur
where
  /-- The array ends before a member that it must hold. -/
  short (name : String) : String :=
    s!"invalid length {layout.names.idxOf name}, expected " ++
      lengthText layout.title layout.names.length

def record {σ α : Type} (layout : Layout FromText σ α) : FromText α := fun depth cur =>
  let cur := cur.skipBlanks
  match cur.peek, depth with
  | some '[', 0 => failAhead cur .recursionLimit
  | some '\x7b', 0 => failAhead cur .recursionLimit
  | some '[', depth + 1 => elements layout depth layout.empty true layout.names cur.next
  | some '\x7b', depth + 1 =>
    members layout depth layout.empty true (cur.rest.length + 1) cur.next
  | _, _ => refuse s!"struct {layout.title}" cur

instance : Source FromText where
  text := text
  integer := integer
  value := readValue
  optional := optional
  texts := texts
  record := record

/-- Read a text that holds one typed value and nothing else. -/
def parse {α : Type} (part : FromText α) (text : String) : Except String α := do
  let (a, cur) ← part depthLimit (Cursor.start text.toList)
  readEnd cur
  return a

end FromText

end CatalogSearch.Json
