import CatalogSearch.Text.Digits
import CatalogSearch.Text.Percent
import CatalogSearch.Time.Civil
import CatalogSearch.Toml.Value

/-!
# Reading TOML

A text is read statement by statement: table headers, and keys with values. Nothing is said about
what is wrong with a text that cannot be read.
-/
namespace CatalogSearch.Toml

abbrev Scan (α : Type) : Type := List Char → Option (α × List Char)

def isSpace (c : Char) : Bool := c = ' ' || c = '\t'

def skipSpaces (s : List Char) : List Char := s.dropWhile isSpace

/-- A character that may stand in comments and strings. -/
def isVisible (c : Char) : Bool := c = '\t' || (32 ≤ c.toNat && c.toNat ≠ 127)

def skipComment (s : List Char) : List Char :=
  match s with
  | '#' :: rest => rest.dropWhile isVisible
  | _ => s

def newline? (s : List Char) : Option (List Char) :=
  match s with
  | '\n' :: rest => some rest
  | '\r' :: '\n' :: rest => some rest
  | _ => none

/-- Pass spaces, comments and line breaks; `fuel` bounds the lines. -/
def skipLines : Nat → List Char → List Char
  | 0, s => s
  | fuel + 1, s =>
    let s := skipComment (skipSpaces s)
    match newline? s with
    | some rest => skipLines fuel rest
    | none => s

def skipBlank (s : List Char) : List Char := skipLines s.length s

/-- The rest of a line holds nothing but spaces and a comment. -/
def endLine (s : List Char) : Option (List Char) :=
  match skipComment (skipSpaces s) with
  | [] => some []
  | s => newline? s

/-- A code point in `count` hexadecimal digits. -/
def scanCodePoint (count : Nat) : Scan Char := fun s => do
  let ds := s.take count
  if ds.length < count then none
  let n ← ds.foldl (fun n c => do return 16 * (← n) + (← Text.hexValue? c)) (some 0)
  if 0x10FFFF < n || (0xD800 ≤ n && n ≤ 0xDFFF) then none
  return (Char.ofNat n, s.drop count)

/-- The character behind a backslash. -/
def scanEscape : Scan Char := fun s =>
  match s with
  | 'b' :: rest => some (Char.ofNat 8, rest)
  | 't' :: rest => some ('\t', rest)
  | 'n' :: rest => some ('\n', rest)
  | 'f' :: rest => some (Char.ofNat 12, rest)
  | 'r' :: rest => some ('\r', rest)
  | '"' :: rest => some ('"', rest)
  | '\\' :: rest => some ('\\', rest)
  | 'u' :: rest => scanCodePoint 4 rest
  | 'U' :: rest => scanCodePoint 8 rest
  | _ => none

/-- The rest of a basic string behind its opening quote. -/
def scanBasic (seen : List Char) : Nat → Scan String
  | 0, _ => none
  | fuel + 1, s =>
    match s with
    | '"' :: rest => some (String.ofList seen.reverse, rest)
    | '\\' :: rest => do
      let (c, rest) ← scanEscape rest
      scanBasic (c :: seen) fuel rest
    | c :: rest => if isVisible c then scanBasic (c :: seen) fuel rest else none
    | [] => none

/-- The rest of a literal string behind its opening quote. -/
def scanLiteral : Scan String := fun s =>
  match s.span fun c => c ≠ '\'' with
  | (inner, '\'' :: rest) =>
    if inner.all isVisible then some (String.ofList inner, rest) else none
  | _ => none

/-- Quotes at the end of a string of several lines: three close it, and up to two in front of them
belong to it. -/
def closing (quote : Char) (s : List Char) : Option (List Char × List Char) :=
  let count := (s.takeWhile (· = quote)).length
  if 3 ≤ count then some (List.replicate (min (count - 3) 2) quote, s.drop (min count 5))
  else none

/-- Behind a backslash at the end of a line, pass all blanks up to the next character. -/
def lineContinuation? (s : List Char) : Option (List Char) :=
  (newline? (skipSpaces s)).map fun rest =>
    rest.dropWhile fun c => isSpace c || c = '\n' || c = '\r'

/-- The rest of a string of several lines behind its opening quotes; escapes are read only in
basic ones. -/
def scanLong (quote : Char) (escapes : Bool) (seen : List Char) : Nat → Scan String
  | 0, _ => none
  | fuel + 1, s =>
    match closing quote s with
    | some (more, rest) => some (String.ofList (seen.reverse ++ more), rest)
    | none =>
      match s with
      | [] => none
      | c :: rest =>
        if c = '\\' && escapes then
          match lineContinuation? rest with
          | some rest => scanLong quote escapes seen fuel rest
          | none => do
            let (c, rest) ← scanEscape rest
            scanLong quote escapes (c :: seen) fuel rest
        else
          match newline? s with
          | some rest => scanLong quote escapes ('\n' :: seen) fuel rest
          | none => if isVisible c then scanLong quote escapes (c :: seen) fuel rest else none

def scanString : Scan String := fun s =>
  match s with
  | '"' :: '"' :: '"' :: rest =>
    scanLong '"' true [] (rest.length + 1) ((newline? rest).getD rest)
  | '\'' :: '\'' :: '\'' :: rest =>
    scanLong '\'' false [] (rest.length + 1) ((newline? rest).getD rest)
  | '"' :: rest => scanBasic [] (rest.length + 1) rest
  | '\'' :: rest => scanLiteral rest
  | _ => none

def isBareKey (c : Char) : Bool := (c.toNat < 128 && c.isAlphanum) || c = '_' || c = '-'

/-- One part of a key. -/
def scanSimpleKey : Scan String := fun s =>
  match s with
  | '"' :: rest => scanBasic [] (rest.length + 1) rest
  | '\'' :: rest => scanLiteral rest
  | _ =>
    let name := s.takeWhile isBareKey
    if name.isEmpty then none else some (String.ofList name, s.drop name.length)

/-- How many levels a key or a value may have. -/
def depthLimit : Nat := 79

/-- A key of at most `depth` parts between points. -/
def scanParts : Nat → Scan (List String)
  | 0, _ => none
  | depth + 1, s => do
    let (part, s) ← scanSimpleKey (skipSpaces s)
    match skipSpaces s with
    | '.' :: rest => do
      let (parts, s) ← scanParts depth rest
      return (part :: parts, s)
    | s => return ([part], s)

def scanKey : Scan (List String) := scanParts depthLimit

/-- Digits with single underscores between them, without the underscores. -/
def ungroup (isDigit : Char → Bool) : List Char → Option (List Char)
  | [] => none
  | [c] => if isDigit c then some [c] else none
  | c :: '_' :: rest => if isDigit c then (ungroup isDigit rest).map (c :: ·) else none
  | c :: rest => if isDigit c then (ungroup isDigit rest).map (c :: ·) else none

def ofRadix (base : Nat) (s : List Char) : Option Nat := do
  let ds ← ungroup (fun c => ((Text.hexValue? c).map fun d => decide (d < base)).getD false) s
  return ds.foldl (fun n c => base * n + (Text.hexValue? c).getD 0) 0

/-- A whole number must fit 64 bits with a sign. -/
def intOf (n : Int) : Option Toml :=
  if -(twoTo 63 : Int) ≤ n && n < twoTo 63 then some (.int n) else none

/-- Decimal digits without a leading zero. -/
def plainDigits (s : List Char) : Option (List Char) := do
  let ds ← ungroup Text.isDigit s
  if 1 < ds.length && ds.head? = some '0' then none else some ds

/-- A number with a fraction or an exponent. -/
def floatOf (negative : Bool) (s : List Char) : Option Toml := do
  let (mantissa, exponent) := s.span fun c => c ≠ 'e' && c ≠ 'E'
  let (whole, fraction) := mantissa.span (· ≠ '.')
  let whole ← plainDigits whole
  let fraction ← match fraction with
    | [] => some []
    | _ :: ds => ungroup Text.isDigit ds
  let power ← match exponent with
    | [] => some (0 : Int)
    | _ :: '-' :: ds => (ungroup Text.isDigit ds).map fun ds => -(Text.ofDigits ds : Int)
    | _ :: '+' :: ds => (ungroup Text.isDigit ds).map fun ds => (Text.ofDigits ds : Int)
    | _ :: ds => (ungroup Text.isDigit ds).map fun ds => (Text.ofDigits ds : Int)
  let significand := Text.ofDigits (whole ++ fraction)
  let x := Double.ofDecimal negative significand (power - fraction.length)
  if !x.isFinite && !negative then none else some (.float x)

def numberOf (word : List Char) : Option Toml :=
  match word with
  | '0' :: 'x' :: ds => (ofRadix 16 ds).bind fun n => intOf n
  | '0' :: 'o' :: ds => (ofRadix 8 ds).bind fun n => intOf n
  | '0' :: 'b' :: ds => (ofRadix 2 ds).bind fun n => intOf n
  | _ =>
    let (negative, body) := match word with
      | '-' :: rest => (true, rest)
      | '+' :: rest => (false, rest)
      | rest => (false, rest)
    if body = "inf".toList then some (.float (Double.ofParts negative Double.infinityBits))
    else if body = "nan".toList then
      some (.float (Double.ofParts negative (Double.infinityBits + twoTo 51)))
    else if body.any fun c => c = '.' || c = 'e' || c = 'E' then floatOf negative body
    else do
      let n := Text.ofDigits (← plainDigits body)
      intOf (if negative then -(n : Int) else n)

def isDate (s : List Char) : Bool :=
  match s with
  | [a, b, c, d, '-', e, f, '-', g, h] =>
    [a, b, c, d, e, f, g, h].all Text.isDigit &&
      (let year := Text.ofDigits [a, b, c, d]
       let month := Text.ofDigits [e, f]
       let day := Text.ofDigits [g, h]
       1 ≤ month && month ≤ 12 && 1 ≤ day && day ≤ Time.daysInMonth year month)
  | _ => false

def isTime (s : List Char) : Bool :=
  match s with
  | a :: b :: ':' :: c :: d :: ':' :: e :: f :: rest =>
    [a, b, c, d, e, f].all Text.isDigit && Text.ofDigits [a, b] ≤ 23 &&
      Text.ofDigits [c, d] ≤ 59 && Text.ofDigits [e, f] ≤ 60 &&
      (match rest with
        | [] => true
        | '.' :: ds => !ds.isEmpty && ds.all Text.isDigit
        | _ => false)
  | _ => false

def isOffset (s : List Char) : Bool :=
  match s with
  | [a, b, ':', c, d] =>
    [a, b, c, d].all Text.isDigit && Text.ofDigits [a, b] ≤ 23 && Text.ofDigits [c, d] ≤ 59
  | _ => false

def isZonedTime (s : List Char) : Bool :=
  let (time, zone) := s.span fun c => c ≠ 'Z' && c ≠ 'z' && c ≠ '+' && c ≠ '-'
  isTime time && (match zone with
    | [] => true
    | ['Z'] => true
    | ['z'] => true
    | '+' :: offset => isOffset offset
    | '-' :: offset => isOffset offset
    | _ => false)

/-- Is the text a date, a time, or both? -/
def isMoment (s : List Char) : Bool :=
  isDate s || isTime s ||
    (isDate (s.take 10) && (match s.drop 10 with
      | 'T' :: time => isZonedTime time
      | 't' :: time => isZonedTime time
      | ' ' :: time => isZonedTime time
      | _ => false))

/-- A character of a number, a moment or a name. -/
def isWordChar (c : Char) : Bool :=
  (c.toNat < 128 && c.isAlphanum) || "_-+.:".toList.contains c

/-- The next word; a date and a time with one space between them are one word. -/
def scanWord (s : List Char) : List Char × List Char :=
  let word := s.takeWhile isWordChar
  let rest := s.drop word.length
  match rest with
  | ' ' :: d :: more =>
    if isDate word && Text.isDigit d then
      let time := (d :: more).takeWhile isWordChar
      (word ++ ' ' :: time, more.drop (time.length - 1))
    else (word, rest)
  | _ => (word, rest)

def scanScalar : Scan Toml := fun s =>
  let (word, rest) := scanWord s
  if word = "true".toList then some (.bool true, rest)
  else if word = "false".toList then some (.bool false, rest)
  else if isMoment word then some (.moment (String.ofList word), rest)
  else (numberOf word).map fun v => (v, rest)

/-- The elements of an array up to its closing bracket. -/
def scanElements (value : Scan Toml) (seen : List Toml) : Nat → Scan (List Toml)
  | 0, _ => none
  | fuel + 1, s => do
    match skipBlank s with
    | ']' :: rest => return (seen.reverse, rest)
    | s =>
      let (v, s) ← value s
      match skipBlank s with
      | ',' :: rest => scanElements value (v :: seen) fuel rest
      | ']' :: rest => return ((v :: seen).reverse, rest)
      | _ => none

/-- The members of an inline table up to its closing brace. -/
def scanMembers (value : Scan Toml) (members : Members) : Nat → Scan Members
  | 0, _ => none
  | fuel + 1, s => do
    let (keys, s) ← scanKey s
    match skipSpaces s with
    | '=' :: rest =>
      let (v, s) ← value (skipSpaces rest)
      let members ← defineAt v false keys false members
      match skipSpaces s with
      | ',' :: rest => scanMembers value members fuel rest
      | '\x7d' :: rest => return (members, rest)
      | _ => none
    | _ => none

/-- A value whose arrays and tables are nested at most `depth` deep. -/
def scanValue : Nat → Scan Toml
  | 0, s =>
    match s with
    | '"' :: _ => (scanString s).map fun r => (.str r.1, r.2)
    | '\'' :: _ => (scanString s).map fun r => (.str r.1, r.2)
    | _ => scanScalar s
  | depth + 1, s =>
    match s with
    | '"' :: _ => (scanString s).map fun r => (.str r.1, r.2)
    | '\'' :: _ => (scanString s).map fun r => (.str r.1, r.2)
    | '[' :: rest =>
      (scanElements (scanValue depth) [] (rest.length + 1) rest).map fun r => (.arr r.1, r.2)
    | '\x7b' :: rest =>
      match skipSpaces rest with
      | '\x7d' :: rest => some (.table [], rest)
      | rest => (scanMembers (scanValue depth) [] (rest.length + 1) rest).map
        fun r => (.table (finishMembers r.1), r.2)
    | _ => scanScalar s

/-- The document so far and the header that is open. -/
structure Progress where
  members : Members := []
  header : List String := []

/-- Read one statement, which ends with its line. -/
def scanStatement (p : Progress) : Scan Progress := fun s => do
  match s with
  | '[' :: '[' :: rest =>
    let (keys, s) ← scanKey rest
    match skipSpaces s with
    | ']' :: ']' :: rest =>
      return (⟨← changeAt openRow keys p.members, keys⟩, ← endLine rest)
    | _ => none
  | '[' :: rest =>
    let (keys, s) ← scanKey rest
    match skipSpaces s with
    | ']' :: rest =>
      return (⟨← changeAt openTable keys p.members, keys⟩, ← endLine rest)
    | _ => none
  | s =>
    let (keys, s) ← scanKey s
    match skipSpaces s with
    | '=' :: rest =>
      let (value, s) ← scanValue depthLimit (skipSpaces rest)
      return (⟨← assign keys value p.header p.members, p.header⟩, ← endLine s)
    | _ => none

/-- Read statements to the end of the text; `fuel` bounds their number. -/
def scanStatements (p : Progress) : Nat → List Char → Option Members
  | 0, _ => none
  | fuel + 1, s =>
    match skipBlank s with
    | [] => some p.members
    | s => do
      let (p, s) ← scanStatement p s
      scanStatements p fuel s

def parse (text : String) : Option Toml :=
  let s := match text.toList with
    | '\uFEFF' :: rest => rest
    | s => s
  (scanStatements {} (s.length + 1) s).map fun members => .table (finishMembers members)

end CatalogSearch.Toml
