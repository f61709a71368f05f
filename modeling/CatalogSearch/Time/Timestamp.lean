import CatalogSearch.Number.Power
import CatalogSearch.Text.Blank
import CatalogSearch.Text.Digits
import CatalogSearch.Time.Civil

/-!
# Timestamps

A timestamp is read in one of six layouts, tried in turn, and written in UTC with microseconds.
A layout without an offset means UTC. The first layout is strict; the others accept fields without
leading zeros, blanks before a number, and years with a sign.
-/
namespace CatalogSearch.Time

/-- A moment as it is read: date and time of day in the zone that is `offset` seconds ahead of
UTC. A leap second is second 60. -/
structure Moment where
  date : Date
  hour : Nat
  minute : Nat
  second : Nat
  nanos : Nat
  offset : Int
  deriving DecidableEq, Repr

/-- A year: four digits from 0 to 9999, else a sign and at least four digits. -/
def yearText (year : Int) : String :=
  if 0 ≤ year ∧ year ≤ 9999 then Text.padded 4 year.toNat
  else (if year < 0 then "-" else "+") ++ Text.padded 4 year.natAbs

/-- The moment in UTC: its date, the second of the day, and the rest. -/
def Moment.toUtc (m : Moment) : Moment :=
  let leap := if m.second = 60 then 1 else 0
  let total := m.date.toDays * 86400 + (m.hour * 3600 + m.minute * 60 + (m.second - leap) : Nat) -
    m.offset
  let second := (total % 86400).toNat
  ⟨Date.ofDays (total / 86400), second / 3600, second / 60 % 60, second % 60 + leap, m.nanos, 0⟩

/-- The text of a moment in UTC with microseconds, further digits cut off. -/
def Moment.utcText (m : Moment) : String :=
  let u := m.toUtc
  yearText u.date.year ++ "-" ++ Text.padded 2 u.date.month ++ "-" ++ Text.padded 2 u.date.day ++
    "T" ++ Text.padded 2 u.hour ++ ":" ++ Text.padded 2 u.minute ++ ":" ++
    Text.padded 2 u.second ++ "." ++ Text.padded 6 (u.nanos / 1000) ++ "+00:00"

/-- A moment whose parts are in range, in its own zone and in UTC. -/
def Moment.isValid (m : Moment) : Bool :=
  m.date.isValid && m.hour ≤ 23 && m.minute ≤ 59 && m.second ≤ 60 &&
    -86400 < m.offset && m.offset < 86400 &&
    firstYear ≤ m.toUtc.date.year && m.toUtc.date.year ≤ lastYear

/-- What a step of reading finds, and the text behind it. -/
abbrev Scan (α : Type) := List Char → Option (α × List Char)

/-- At least `least` and at most `most` digits, as many as there are. -/
def scanDigits (least most : Nat) : Scan Nat := fun s =>
  let ds := (s.take most).takeWhile Text.isDigit
  if ds.length < least then none else some (Text.ofDigits ds, s.drop ds.length)

def scanChar (c : Char) (s : List Char) : Option (List Char) :=
  match s with
  | d :: rest => if c = d then some rest else none
  | [] => none

/-- A number of one or two digits, blanks before it allowed. -/
def scanField : Scan Nat := fun s =>
  scanDigits 1 2 (Text.dropLeading s)

/-- A year of up to four digits, or of any length behind a sign. -/
def scanYear : Scan Int := fun s =>
  match Text.dropLeading s with
  | '-' :: rest => (scanDigits 1 rest.length rest).map fun r => (-(r.1 : Int), r.2)
  | '+' :: rest => (scanDigits 1 rest.length rest).map fun r => ((r.1 : Int), r.2)
  | s => (scanDigits 1 4 s).map fun r => ((r.1 : Int), r.2)

/-- Nanoseconds behind an optional point; digits beyond the ninth are passed over. -/
def scanFraction : Scan Nat := fun s =>
  match s with
  | '.' :: rest =>
    let ds := rest.takeWhile Text.isDigit
    if ds.isEmpty then none
    else
      let kept := ds.take 9
      some (Text.ofDigits kept * tenTo (9 - kept.length), rest.drop ds.length)
  | s => some (0, s)

/-- Two digits, the first at most `lead`. -/
def scanTwo (lead : Char) : Scan Nat := fun s =>
  match s with
  | a :: b :: rest =>
    if Text.isDigit a && Text.isDigit b && a ≤ lead then
      some (Text.digitValue a * 10 + Text.digitValue b, rest)
    else none
  | _ => none

/-- The sign of an offset: plus, minus, or the longer minus sign. -/
def scanSign : Scan Int := fun s =>
  match s with
  | '+' :: rest => some (1, rest)
  | '-' :: rest => some (-1, rest)
  | '−' :: rest => some (-1, rest)
  | _ => none

/-- Hours and minutes of an offset, with `between` passing over what separates them. -/
def scanOffset (between : List Char → Option (List Char)) (minutesMayLack : Bool) : Scan Int :=
  fun s => do
    let (sign, s) ← scanSign s
    let (hours, s) ← scanTwo '9' s
    let s ← between s
    let (minutes, s) ← if s.isEmpty && minutesMayLack then some (0, s) else scanTwo '5' s
    return (sign * ((hours * 3600 + minutes * 60 : Nat) : Int), s)

def scanZulu : Scan Int := fun s =>
  match s with
  | 'Z' :: rest => some (0, rest)
  | 'z' :: rest => some (0, rest)
  | _ => none

def passColonsAndBlanks (s : List Char) : Option (List Char) :=
  some (s.dropWhile fun c => c = ':' || Text.isBlank c)

def scanDate : Scan Date := fun s => do
  let (year, s) ← scanYear s
  let s ← scanChar '-' s
  let (month, s) ← scanField s
  let s ← scanChar '-' s
  let (day, s) ← scanField s
  return (⟨year, month, day⟩, s)

/-- A time of day with an optional fraction, as a moment of the given date in UTC. -/
def scanTime (date : Date) : Scan Moment := fun s => do
  let (hour, s) ← scanField s
  let s ← scanChar ':' s
  let (minute, s) ← scanField s
  let s ← scanChar ':' s
  let (second, s) ← scanField s
  let (nanos, s) ← scanFraction s
  return (⟨date, hour, minute, second, nanos, 0⟩, s)

/-- The moment that a layout found, if it used the whole text and is a valid one. -/
def complete (found : Option (Moment × List Char)) : Option Moment :=
  match found with
  | some (m, []) => if m.isValid then some m else none
  | _ => none

/-- The strict layout: every field at its full width, and an offset. -/
def readStrict (s : List Char) : Option Moment := complete do
  let (year, s) ← scanDigits 4 4 s
  let s ← scanChar '-' s
  let (month, s) ← scanDigits 2 2 s
  let s ← scanChar '-' s
  let (day, s) ← scanDigits 2 2 s
  let s ← match s with
    | 'T' :: rest => some rest
    | 't' :: rest => some rest
    | ' ' :: rest => some rest
    | _ => none
  let (hour, s) ← scanDigits 2 2 s
  let s ← scanChar ':' s
  let (minute, s) ← scanDigits 2 2 s
  let s ← scanChar ':' s
  let (second, s) ← scanDigits 2 2 s
  let (nanos, s) ← scanFraction s
  let (offset, s) ← (scanZulu s).or (scanOffset (scanChar ':') false s)
  return (⟨⟨year, month, day⟩, hour, minute, second, nanos, offset⟩, s)

/-- Date, blanks, time and an offset with minutes. -/
def readWithOffset (s : List Char) : Option Moment := complete do
  let (date, s) ← scanDate s
  let (m, s) ← scanTime date (Text.dropLeading s)
  let (offset, s) ← scanOffset passColonsAndBlanks false (Text.dropLeading s)
  return (⟨m.date, m.hour, m.minute, m.second, m.nanos, offset⟩, s)

/-- Date, blanks, time and an offset whose minutes may be left out, or the letter for UTC. -/
def readWithShortOffset (s : List Char) : Option Moment := complete do
  let (date, s) ← scanDate s
  let (m, s) ← scanTime date (Text.dropLeading s)
  let s := Text.dropLeading s
  let (offset, s) ← (scanZulu s).or (scanOffset passColonsAndBlanks true s)
  return (⟨m.date, m.hour, m.minute, m.second, m.nanos, offset⟩, s)

/-- Date and time around the letter `T`. -/
def readJoined (s : List Char) : Option Moment := complete do
  let (date, s) ← scanDate s
  scanTime date (← scanChar 'T' s)

/-- Date and time with blanks between them. -/
def readSpaced (s : List Char) : Option Moment := complete do
  let (date, s) ← scanDate s
  scanTime date (Text.dropLeading s)

/-- A date alone, which means its midnight. -/
def readDate (s : List Char) : Option Moment := complete do
  let (date, s) ← scanDate s
  return (⟨date, 0, 0, 0, 0, 0⟩, s)

/-- The moment that a text denotes in the first layout that fits. -/
def readMoment (s : List Char) : Option Moment :=
  [readStrict, readWithOffset, readWithShortOffset, readJoined, readSpaced, readDate].findSome?
    fun layout => layout s

/-- The normal form of a timestamp: UTC with microseconds. A blank text has none; a text in no
layout is its own normal form, apart from blanks around it. -/
def toUtc (raw : String) : Option String :=
  let s := Text.trimChars raw.toList
  if s.isEmpty then none
  else
    match readMoment s with
    | some m => some m.utcText
    | none => some (String.ofList s)

/-- The normal form of an absent timestamp. No other timestamp has it. -/
def absent : String := ""

/-- The text by which two timestamps are compared. -/
def normalize (raw : Option String) : String :=
  (raw.bind toUtc).getD absent

end CatalogSearch.Time
