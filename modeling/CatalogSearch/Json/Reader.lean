import CatalogSearch.Json.Kind
import CatalogSearch.Text.Percent
import CatalogSearch.Text.Digits

/-!
# Reading JSON

A reader walks over a text and keeps the line and the byte column of what it has passed. An error
is placed either where the reader stands or one byte further, at the character that it refused to
pass. Containers may be nested 127 deep.
-/
namespace CatalogSearch.Json

inductive SyntaxError where
  | eofInList | eofInObject | eofInString | eofInValue
  | expectedColon | expectedListCommaOrEnd | expectedObjectCommaOrEnd
  | expectedIdent | expectedValue
  | invalidEscape | invalidNumber | numberOutOfRange
  | controlCharacter | keyMustBeString
  | loneSurrogate | unexpectedEndOfHexEscape
  | trailingComma | trailingCharacters | recursionLimit
  deriving DecidableEq, Repr

def SyntaxError.message : SyntaxError → String
  | .eofInList => "EOF while parsing a list"
  | .eofInObject => "EOF while parsing an object"
  | .eofInString => "EOF while parsing a string"
  | .eofInValue => "EOF while parsing a value"
  | .expectedColon => "expected `:`"
  | .expectedListCommaOrEnd => "expected `,` or `]`"
  | .expectedObjectCommaOrEnd => "expected `,` or `\x7d`"
  | .expectedIdent => "expected ident"
  | .expectedValue => "expected value"
  | .invalidEscape => "invalid escape"
  | .invalidNumber => "invalid number"
  | .numberOutOfRange => "number out of range"
  | .controlCharacter => "control character (\\u0000-\\u001F) found while parsing a string"
  | .keyMustBeString => "key must be a string"
  | .loneSurrogate => "lone leading surrogate in hex escape"
  | .unexpectedEndOfHexEscape => "unexpected end of hex escape"
  | .trailingComma => "trailing comma"
  | .trailingCharacters => "trailing characters"
  | .recursionLimit => "recursion limit exceeded"

/-- A place in a text: the line, counted from one, and the bytes passed on it. -/
structure Place where
  line : Nat
  column : Nat
  deriving DecidableEq, Repr

def Place.describe (place : Place) (text : String) : String :=
  s!"{text} at line {place.line} column {place.column}"

/-- A reader's position: what is left to read and the place before it. -/
structure Cursor where
  rest : List Char
  place : Place
  deriving Repr

namespace Cursor

def start (text : List Char) : Cursor := ⟨text, ⟨1, 0⟩⟩

def past (place : Place) (c : Char) : Place :=
  if c = '\n' then ⟨place.line + 1, 0⟩ else ⟨place.line, place.column + c.utf8Size⟩

/-- Pass one character; nothing happens at the end. -/
def next (cur : Cursor) : Cursor :=
  match cur.rest with
  | [] => cur
  | c :: rest => ⟨rest, past cur.place c⟩

def skipWhile (p : Char → Bool) (cur : Cursor) : Cursor :=
  go cur.rest cur.place
where
  go : List Char → Place → Cursor
    | [], place => ⟨[], place⟩
    | c :: rest, place => if p c then go rest (past place c) else ⟨c :: rest, place⟩

/-- Space, tab, line feed and carriage return. -/
def isJsonBlank (c : Char) : Bool :=
  c = ' ' || c = '\n' || c = '\t' || c = '\r'

def skipBlanks (cur : Cursor) : Cursor := cur.skipWhile isJsonBlank

def peek (cur : Cursor) : Option Char := cur.rest.head?

/-- The place one byte ahead, or the end. -/
def peekPlace (cur : Cursor) : Place :=
  match cur.rest with
  | [] => cur.place
  | c :: _ => if c = '\n' then ⟨cur.place.line + 1, 0⟩ else ⟨cur.place.line, cur.place.column + 1⟩

/-- The place `count` bytes ahead, or the end. -/
def placeAfterBytes : Nat → List Char → Place → Place
  | 0, _, place => place
  | _, [], place => place
  | count + 1, c :: rest, place =>
    if count + 1 < c.utf8Size then ⟨place.line, place.column + count + 1⟩
    else placeAfterBytes (count + 1 - c.utf8Size) rest (past place c)
  termination_by _ rest _ => rest.length

end Cursor

/-- The result of reading: a value and the position behind it, or a placed error text. -/
abbrev Reading (α : Type) := Except String (α × Cursor)

def failHere {α : Type} (cur : Cursor) (e : SyntaxError) : Except String α :=
  .error (cur.place.describe e.message)

/-- Fail at the next byte. -/
def failAhead {α : Type} (cur : Cursor) (e : SyntaxError) : Except String α :=
  .error (cur.peekPlace.describe e.message)

def readIdent : List Char → Cursor → Except String Cursor
  | [], cur => .ok cur
  | c :: more, cur =>
    match cur.peek with
    | none => failHere cur .eofInValue
    | some d => if c = d then readIdent more cur.next else failAhead cur .expectedIdent

/-- The value of four hexadecimal digits. -/
def hexQuad? (a b c d : Char) : Option Nat := do
  let w ← Text.hexValue? a
  let x ← Text.hexValue? b
  let y ← Text.hexValue? c
  let z ← Text.hexValue? d
  return ((w * 16 + x) * 16 + y) * 16 + z

/-- Refuse the next four bytes as digits of an escape. -/
def refuseHex (cur : Cursor) : Reading Nat :=
  let place := Cursor.placeAfterBytes 4 cur.rest cur.place
  let size : Nat := (cur.rest.take 4).foldl (fun n c => n + c.utf8Size) 0
  .error (place.describe
    (if size < 4 then SyntaxError.eofInString else SyntaxError.invalidEscape).message)

def readHex4 (cur : Cursor) : Reading Nat :=
  match cur.rest with
  | a :: b :: c :: d :: _ =>
    match hexQuad? a b c d with
    | some n => .ok (n, cur.next.next.next.next)
    | none => refuseHex cur
  | _ => refuseHex cur

/-- Pass one given character of the second half of a pair. -/
def passHalf (c : Char) (cur : Cursor) : Except String Cursor :=
  match cur.peek with
  | none => failHere cur .eofInString
  | some d => if c = d then .ok cur.next else failAhead cur .unexpectedEndOfHexEscape

/-- Read the code unit behind `\u`, joining the two halves of a surrogate pair. -/
def readUnicodeEscape (cur : Cursor) : Reading Char :=
  match readHex4 cur with
  | .error e => .error e
  | .ok (n, cur) =>
    if 0xDC00 ≤ n ∧ n ≤ 0xDFFF then failHere cur .loneSurrogate
    else if n < 0xD800 ∨ 0xDBFF < n then .ok (Char.ofNat n, cur)
    else
      match (passHalf '\\' cur).bind (passHalf 'u') with
      | .error e => .error e
      | .ok cur =>
        match readHex4 cur with
        | .error e => .error e
        | .ok (m, cur) =>
          if m < 0xDC00 ∨ 0xDFFF < m then failHere cur .loneSurrogate
          else .ok (Char.ofNat ((n - 0xD800) * 1024 + (m - 0xDC00) + 0x10000), cur)

def readEscape (cur : Cursor) : Reading Char :=
  match cur.peek with
  | none => failHere cur .eofInString
  | some '"' => .ok ('"', cur.next)
  | some '\\' => .ok ('\\', cur.next)
  | some '/' => .ok ('/', cur.next)
  | some 'b' => .ok (Char.ofNat 8, cur.next)
  | some 'f' => .ok (Char.ofNat 12, cur.next)
  | some 'n' => .ok ('\n', cur.next)
  | some 'r' => .ok ('\r', cur.next)
  | some 't' => .ok ('\t', cur.next)
  | some 'u' => readUnicodeEscape cur.next
  | some _ => failAhead cur .invalidEscape

/-- Read a string behind its opening quote; `seen` holds the characters so far, last first. -/
def readStringBody (seen : List Char) : Nat → Cursor → Reading String
  | 0, cur => failHere cur .eofInString
  | fuel + 1, cur =>
    match cur.rest with
    | [] => failHere cur .eofInString
    | '"' :: _ => .ok (String.ofList seen.reverse, cur.next)
    | '\\' :: _ =>
      match readEscape cur.next with
      | .error e => .error e
      | .ok (c, cur) => readStringBody (c :: seen) fuel cur
    | c :: _ =>
      if c.toNat < 32 then failAhead cur .controlCharacter
      else readStringBody (c :: seen) fuel cur.next

/-- Read a string whose opening quote is next. -/
def readString (cur : Cursor) : Reading String :=
  readStringBody [] (cur.rest.length + 1) cur.next

/-- The greatest whole number that is read digit by digit. -/
def naturalLimit : Nat := twoTo 64 - 1

def exponentLimit : Nat := twoTo 31 - 1

/-- A power of ten that a double holds, as the double nearest to it. -/
def powerOfTen (n : Nat) : Double := Double.ofNat (tenTo n)

/-- Scale a significand by a power of ten in steps that a double can hold. Each step rounds. -/
def scaleDecimal (x : Double) (exponent : Int) : Nat → Option Double
  | 0 => some x
  | fuel + 1 =>
    if exponent.natAbs ≤ 308 then
      if 0 ≤ exponent then
        let y := x.mulMagnitude (powerOfTen exponent.natAbs)
        if y.isFinite then some y else none
      else some (x.divMagnitude (powerOfTen exponent.natAbs))
    else if x.isZero then some x
    else if 0 ≤ exponent then none
    else scaleDecimal (x.divMagnitude (powerOfTen 308)) (exponent + 308) fuel

/-- The number with the given sign, significand and power of ten. -/
def floatOfParts (negative : Bool) (significand : Nat) (exponent : Int) (cur : Cursor) :
    Reading Json :=
  match scaleDecimal (Double.ofNat significand) exponent 8 with
  | some x => .ok (.float (if negative then x.neg else x), cur)
  | none => failHere cur .numberOutOfRange

/-- Read digits into a significand until the next one would pass the limit; the result holds the
significand and the digits that were taken. -/
def takeDigits (limit : Nat) (value : Nat) (count : Nat) : List Char → Nat × Nat × List Char
  | [] => (value, count, [])
  | c :: rest =>
    if Text.isDigit c && value * 10 + Text.digitValue c ≤ limit then
      takeDigits limit (value * 10 + Text.digitValue c) (count + 1) rest
    else (value, count, c :: rest)

/-- Pass a run of characters that lie on one line and are one byte each. -/
def Cursor.passDigits (cur : Cursor) (count : Nat) (rest : List Char) : Cursor :=
  ⟨rest, ⟨cur.place.line, cur.place.column + count⟩⟩

/-- Clamp an exponent to what 32 bits hold. -/
def clampExponent (e : Int) : Int :=
  max (-(twoTo 31 : Int)) (min e (twoTo 31 - 1))

/-- Read an exponent whose letter is next. -/
def readExponent (negative : Bool) (significand : Nat) (starting : Int) (cur : Cursor) :
    Reading Json :=
  let cur := cur.next
  let (down, cur) := match cur.peek with
    | some '+' => (false, cur.next)
    | some '-' => (true, cur.next)
    | _ => (false, cur)
  match cur.peek with
  | none => failHere cur .eofInValue
  | some c =>
    if !Text.isDigit c then failAhead cur .invalidNumber
    else
      let (e, count, rest) := takeDigits exponentLimit 0 0 cur.rest
      let cur := cur.passDigits count rest
      if (cur.peek.map Text.isDigit).getD false then
        let cur := cur.next
        if significand ≠ 0 && !down then failHere cur .numberOutOfRange
        else .ok (.float (Double.ofParts negative 0), cur.skipWhile Text.isDigit)
      else
        floatOfParts negative significand
          (clampExponent (if down then starting - e else starting + e)) cur

/-- Read what follows a significand that is too long for a whole number or has a fraction. -/
def readExponentOrEnd (negative : Bool) (significand : Nat) (exponent : Int) (cur : Cursor) :
    Reading Json :=
  match cur.peek with
  | some 'e' => readExponent negative significand exponent cur
  | some 'E' => readExponent negative significand exponent cur
  | _ => floatOfParts negative significand exponent cur

/-- Read a fraction whose point is next. -/
def readFraction (negative : Bool) (significand : Nat) (before : Int) (cur : Cursor) :
    Reading Json :=
  let cur := cur.next
  let (value, count, rest) := takeDigits naturalLimit significand 0 cur.rest
  let here := cur.passDigits count rest
  if (here.peek.map Text.isDigit).getD false then
    readExponentOrEnd negative value (before - count) (here.skipWhile Text.isDigit)
  else if count = 0 then
    match here.peek with
    | none => failAhead here .eofInValue
    | some _ => failAhead here .invalidNumber
  else readExponentOrEnd negative value (before - count) here

/-- Read a number behind its sign. -/
def readNumber (negative : Bool) (cur : Cursor) : Reading Json :=
  match cur.peek with
  | none => failHere cur .eofInValue
  | some c =>
    if !Text.isDigit c then failAhead cur .invalidNumber
    else
      let (value, count, rest) :=
        if c = '0' then (0, 1, cur.rest.tail) else takeDigits naturalLimit 0 0 cur.rest
      let cur := cur.passDigits count rest
      if (cur.peek.map Text.isDigit).getD false then
        if c = '0' then failAhead cur .invalidNumber
        else
          let more := cur.skipWhile Text.isDigit
          let exponent : Int := (more.place.column : Int) - cur.place.column
          match more.peek with
          | some '.' => readFraction negative value exponent more
          | _ => readExponentOrEnd negative value exponent more
      else
        match cur.peek with
        | some '.' => readFraction negative value 0 cur
        | some 'e' => readExponent negative value 0 cur
        | some 'E' => readExponent negative value 0 cur
        | _ =>
          if !negative then .ok (.int value, cur)
          else if value = 0 || twoTo 63 < value then
            .ok (.float (Double.ofNat value).neg, cur)
          else .ok (.int (-value), cur)

/-- The step between two elements of an array: `true` if another one follows. -/
def nextElement (first : Bool) (cur : Cursor) : Reading Bool :=
  let cur := cur.skipBlanks
  match cur.peek with
  | none => failAhead cur .eofInList
  | some ']' => .ok (false, cur)
  | some c =>
    if first then .ok (true, cur)
    else if c = ',' then
      let cur := cur.next.skipBlanks
      match cur.peek with
      | some ']' => failAhead cur .trailingComma
      | some _ => .ok (true, cur)
      | none => failAhead cur .eofInValue
    else failAhead cur .expectedListCommaOrEnd

/-- The step between two members of an object: `true` if another key follows. -/
def nextKey (first : Bool) (cur : Cursor) : Reading Bool :=
  let cur := cur.skipBlanks
  match cur.peek with
  | none => failAhead cur .eofInObject
  | some '\x7d' => .ok (false, cur)
  | some c =>
    if first then
      if c = '"' then .ok (true, cur) else failAhead cur .keyMustBeString
    else if c = ',' then
      let cur := cur.next.skipBlanks
      match cur.peek with
      | some '"' => .ok (true, cur)
      | some '\x7d' => failAhead cur .trailingComma
      | some _ => failAhead cur .keyMustBeString
      | none => failAhead cur .eofInValue
    else failAhead cur .expectedObjectCommaOrEnd

def passColon (cur : Cursor) : Except String Cursor :=
  let cur := cur.skipBlanks
  match cur.peek with
  | some ':' => .ok cur.next
  | some _ => failAhead cur .expectedColon
  | none => failAhead cur .eofInObject

def readElements {α : Type} (element : Cursor → Reading α) (seen : List α) (first : Bool) :
    Nat → Cursor → Reading (List α)
  | 0, cur => failAhead cur .eofInList
  | fuel + 1, cur =>
    match nextElement first cur with
    | .error e => .error e
    | .ok (false, cur) => .ok (seen.reverse, cur.next)
    | .ok (true, cur) =>
      match element cur with
      | .error e => .error e
      | .ok (item, cur) => readElements element (item :: seen) false fuel cur

/-- Read a value that is no container and whose first character is `c`. -/
def readScalar (c : Char) (cur : Cursor) : Reading Json :=
  match c with
  | 'n' => (readIdent ['u', 'l', 'l'] cur.next).map (Json.null, ·)
  | 't' => (readIdent ['r', 'u', 'e'] cur.next).map (Json.bool true, ·)
  | 'f' => (readIdent ['a', 'l', 's', 'e'] cur.next).map (Json.bool false, ·)
  | '-' => readNumber true cur.next
  | '"' => (readString cur).map fun r => (Json.str r.1, r.2)
  | _ => if Text.isDigit c then readNumber false cur else failAhead cur .expectedValue

/-- Refuse the next value, which is not of the expected kind. -/
def refuse {α : Type} (expected : String) (cur : Cursor) : Reading α :=
  match cur.peek with
  | none => failAhead cur .eofInValue
  | some '[' => .error (cur.place.describe (wrongType (.arr []) expected))
  | some '\x7b' => .error (cur.place.describe (wrongType (.obj []) expected))
  | some c =>
    match readScalar c cur with
    | .error e => .error e
    | .ok (v, cur) => .error (cur.place.describe (wrongType v expected))

/-- The name of the member that holds the text of a value in place of the value. It counts only as
the first member of an object. -/
def embeddedName : String := "$serde_json::private::RawValue"

/-- What an embedded text is called in an error text. -/
def embeddedKind : String := "raw value"

/-- Read an object that holds an embedded text, from the colon behind its name on; `inner` reads
the text. -/
def readEmbedded (inner : String → Except String Json) (cur : Cursor) : Reading Json :=
  match passColon cur with
  | .error e => .error e
  | .ok cur =>
    let cur := cur.skipBlanks
    if cur.peek ≠ some '"' then refuse embeddedKind cur
    else
      match (readString cur).bind fun r => (inner r.1).map (·, r.2.skipBlanks) with
      | .error e => .error e
      | .ok (value, cur) =>
        match cur.peek with
        | some '\x7d' => .ok (value, cur.next)
        | some ',' => failAhead cur .trailingComma
        | some _ => failAhead cur .trailingCharacters
        | none => failAhead cur .eofInObject

/-- Read the members of an object up to its closing brace, into ordered form. -/
def readMembers (inner : String → Except String Json) (element : Cursor → Reading Json)
    (seen : List (String × Json)) (first : Bool) : Nat → Cursor → Reading Json
  | 0, cur => failAhead cur .eofInObject
  | fuel + 1, cur =>
    match nextKey first cur with
    | .error e => .error e
    | .ok (false, cur) => .ok (.obj seen, cur.next)
    | .ok (true, cur) =>
      match readString cur with
      | .error e => .error e
      | .ok (key, cur) =>
        if first && key = embeddedName then readEmbedded inner cur
        else
          match (passColon cur).bind element with
          | .error e => .error e
          | .ok (item, cur) =>
            readMembers inner element (Keyed.insert key item seen) false fuel cur

/-- Read one value that may hold containers nested `depth` deep; `inner` reads embedded texts. -/
def readNested (inner : String → Except String Json) : Nat → Cursor → Reading Json
  | 0, cur =>
    let cur := cur.skipBlanks
    match cur.peek with
    | none => failAhead cur .eofInValue
    | some '[' => failAhead cur .recursionLimit
    | some '\x7b' => failAhead cur .recursionLimit
    | some c => readScalar c cur
  | depth + 1, cur =>
    let cur := cur.skipBlanks
    match cur.peek with
    | none => failAhead cur .eofInValue
    | some '[' =>
      (readElements (readNested inner depth) [] true (cur.rest.length + 1) cur.next).map
        fun r => (Json.arr r.1, r.2)
    | some '\x7b' =>
      readMembers inner (readNested inner depth) [] true (cur.rest.length + 1) cur.next
    | some c => readScalar c cur

def depthLimit : Nat := 127

def readEnd (cur : Cursor) : Except String Unit :=
  let cur := cur.skipBlanks
  match cur.peek with
  | none => .ok ()
  | some _ => failAhead cur .trailingCharacters

/-- Read a text that holds one value; `fuel` bounds how deep texts are embedded in each other. -/
def parseWithin : Nat → String → Except String Json
  | 0, text => failHere (Cursor.start text.toList) .eofInValue
  | fuel + 1, text => do
    let (value, cur) ← readNested (parseWithin fuel) depthLimit (Cursor.start text.toList)
    readEnd cur
    return value

/-- Read a text that holds one value. An embedded text is shorter than the one around it. -/
def parse (text : String) : Except String Json := parseWithin (text.length + 1) text

def readValue (depth : Nat) (cur : Cursor) : Reading Json := readNested parse depth cur

end CatalogSearch.Json
