import CatalogSearch.Log.Entry
import CatalogSearch.Log.Pattern
import CatalogSearch.Text.Blank
import CatalogSearch.Text.Digits
import CatalogSearch.Text.Letters

/-!
# Rules of a log filter

A rule gives a level to some entries. It is written `lead[span{detail=value}]=level`, where each
part may be missing: the lead begins the name of the part of the program that speaks, and between
brackets stand the span that the entry lies in and a detail that the entry has. A level alone is a
rule too; a lead alone shows everything.
-/
namespace CatalogSearch.Log

/-- The name of a level in any case, or its rank; `off` and zero show nothing. -/
def Level.parse? (name : String) : Option (Option Level) :=
  match Text.natural? name.toList with
  | some 0 => some none
  | some 1 => some (some .error)
  | some 2 => some (some .warn)
  | some 3 => some (some .info)
  | some 4 => some (some .debug)
  | some 5 => some (some .trace)
  | some _ => none
  | none =>
    match Text.asciiLower name with
    | "off" => some none
    | "error" => some (some .error)
    | "warn" => some (some .warn)
    | "info" => some (some .info)
    | "debug" => some (some .debug)
    | "trace" => some (some .trace)
    | _ => none

/-- A detail that a rule asks for, with or without its value. -/
structure DetailTest where
  name : String
  value : Option String
  deriving DecidableEq, Repr

structure Rule where
  /-- The beginning of the name of the part that speaks. -/
  lead : Option String := none
  span : Option String := none
  details : List DetailTest := []
  /-- The most talkative level that is shown; none shows nothing. -/
  level : Option Level := some .trace
  deriving DecidableEq, Repr

namespace Rule

/-- The bytes of a text from one place up to another; a character belongs to where it begins. -/
def slice (start stop : Nat) (pos : Nat) : List Char → List Char
  | [] => []
  | c :: rest =>
    let here := if start ≤ pos && pos < stop then [c] else []
    here ++ slice start stop (pos + c.utf8Size) rest

/-- Where the reading of a rule stands. A number is the byte at which the part being read begins. -/
inductive Place where
  | beginning
  | leadOrLevel (start : Nat)
  | span (start : Nat)
  | detail (start : Nat)
  | detailsOver
  | bracketOver
  | level (start : Nat)
  deriving Repr

def isFirst (c : Char) : Bool :=
  c = '[' || c = '-' || c = ':' || c = '_' || Text.isAlphanumeric c

/-- Read a detail; what follows a second equals sign is ignored. Its value is a number or a
pattern. -/
def readDetail (text : List Char) : Option DetailTest :=
  match Text.pieces (· = '=') text with
  | name :: value :: _ =>
    if Pattern.isValue value then some ⟨String.ofList name, some (String.ofList value)⟩ else none
  | [name] => if name.isEmpty then none else some ⟨String.ofList name, none⟩
  | [] => none

/-- The level behind an equals sign; without any text it is the most talkative one. -/
def readLevel (text : List Char) : Option (Option Level) :=
  if text.isEmpty then some (some .trace) else Level.parse? (String.ofList text)

/-- Read one more character, which stands at byte `here`; `part` cuts parts out of the text. -/
def step (part : Nat → Nat → List Char) (here : Nat) (c : Char) (r : Rule) (place : Place) :
    Option (Rule × Place) :=
  match place with
  | .beginning =>
    if c = '[' then some (r, .span (here + 1))
    else if isFirst c then some (r, .leadOrLevel here)
    else none
  | .leadOrLevel start =>
    let closed := { r with lead := some (String.ofList (part start here)) }
    if c = '=' then some (closed, .level (here + 1))
    else if c = '[' then some (closed, .span (here + 1))
    else some (r, place)
  | .span start =>
    let text := part start here
    if c = ']' then some ({ r with span := some (String.ofList text) }, .bracketOver)
    else if c = '\x7b' then
      let span := if text.isEmpty then none else some (String.ofList text)
      some ({ r with span }, .detail (here + 1))
    else some (r, place)
  | .detail start =>
    if c = '\x7d' then do
      let detail ← readDetail (part start here)
      return ({ r with details := r.details ++ [detail] }, .detailsOver)
    else some (r, place)
  | .detailsOver => if c = ']' then some (r, .bracketOver) else none
  | .bracketOver => if c = '=' then some (r, .level (here + 1)) else none
  | .level _ => some (r, place)

/-- What the end of a text makes of a rule; `part` cuts the rest of the text. -/
def finish (part : Nat → List Char) (r : Rule) : Place → Option Rule
  | .leadOrLevel start =>
    let text := String.ofList (part start)
    match Level.parse? text with
    | some level => some { r with level }
    | none => some { r with lead := some text }
  | .level start => do return { r with level := ← readLevel (part start) }
  | .bracketOver => some r
  | _ => none

def readFrom (whole : List Char) (here : Nat) (r : Rule) (place : Place) :
    List Char → Option Rule
  | [] => r.finish (fun start => slice start (String.ofList whole).utf8ByteSize 0 whole) place
  | c :: rest => do
    let (r, place) ← r.step (fun start stop => slice start stop 0 whole) here c place
    readFrom whole (here + c.utf8Size) r place rest

/-- Read a rule. Blanks around it count as part of its texts, but not as places in it. -/
def parse? (text : List Char) : Option Rule :=
  readFrom text 0 {} .beginning (Text.trimChars text)

/-- Is this a rule for entries in a span, or for those whose details have certain values? -/
def looksInside (r : Rule) : Bool :=
  r.span.isSome || r.details.any fun d => d.value.isSome

/-- The length of a rule's lead. -/
def reach (r : Rule) : Nat :=
  match r.lead with
  | some lead => lead.utf8ByteSize + 1
  | none => 0

def names (r : Rule) : List String := r.details.map DetailTest.name

/-- Does the rule hold for an entry outside of all spans? -/
def concerns (r : Rule) (e : Entry) : Bool :=
  (match r.lead with
    | some lead => Text.startsWith lead e.target
    | none => true) &&
  r.names.all fun name => name = "message" || e.details.any fun d => d.1 = name

/-- Does a rule give way to another one that holds too? The longer lead decides, then the larger
number of details; otherwise names are compared, and of equal rules the later one counts. -/
def yieldsTo (r other : Rule) : Bool :=
  if r.reach ≠ other.reach then r.reach < other.reach
  else if r.details.length ≠ other.details.length then r.details.length < other.details.length
  else !(other.names < r.names)

end Rule

end CatalogSearch.Log
