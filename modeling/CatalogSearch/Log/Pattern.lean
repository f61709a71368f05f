import CatalogSearch.Text.Digits
import CatalogSearch.Text.Letters
import CatalogSearch.Text.Percent

/-!
# Patterns of values

Whether a text can be used as a regular expression for the values of a detail. What a pattern finds
does not matter here, only that it is one. Such a text stands between braces itself and reaches up
to the first closing one, so whatever needs braces of its own, as a counted repetition does, is
never complete.
-/
namespace CatalogSearch.Log.Pattern

/-- What an item stands for: one character, one of a kind of characters, or a place between
characters. -/
inductive Item where
  | letter (code : Nat)
  | kind
  | place
  deriving DecidableEq, Repr

/-- Read the code of a character in a number of hexadecimal digits. -/
def code? (width : Nat) (s : List Char) : Option (Item × List Char) := do
  let digits ← (s.take width).mapM Text.hexValue?
  let code := digits.foldl (fun n d => 16 * n + d) 0
  if digits.length = width && (code < 0xD800 || (0xDFFF < code && code < 0x110000)) then
    some (.letter code, s.drop width)
  else none

/-- Read what stands behind a backslash. Borders of words cannot be looked for, nor can a group be
referred to. -/
def escape? : List Char → Option (Item × List Char)
  | [] => none
  | c :: rest =>
    if c = 'x' then code? 2 rest
    else if c = 'u' then code? 4 rest
    else if c = 'U' then code? 8 rest
    else if c = 'p' || c = 'P' then
      match rest with
      | kind :: rest => if "clmnpsz".toList.contains kind.toLower then some (.kind, rest) else none
      | [] => none
    else if "dswDSW".toList.contains c then some (.kind, rest)
    else if c = 'A' || c = 'z' then some (.place, rest)
    else if "aftnrv".toList.contains c then
      some (.letter (match c with
        | 'a' => 7
        | 't' => 9
        | 'n' => 10
        | 'v' => 11
        | 'f' => 12
        | _ => 13), rest)
    else if c.toNat < 128 && !c.isAlphanum && c ≠ '<' && c ≠ '>' then some (.letter c.toNat, rest)
    else none

def member? : List Char → Option (Item × List Char)
  | '\\' :: rest => escape? rest
  | c :: rest => some (.letter c.toNat, rest)
  | [] => none

/-- Read a member of a set or a range of characters; a hyphen before a bracket or another hyphen
makes no range. -/
def members? (s : List Char) : Option (List Char) := do
  let (first, rest) ← member? s
  let single := if first = .place then none else some rest
  match rest with
  | '-' :: ']' :: _ => single
  | '-' :: '-' :: _ => single
  | '-' :: rest =>
    let (last, rest) ← member? rest
    match first, last with
    | .letter a, .letter b => if a ≤ b then some rest else none
    | _, _ => none
  | _ => single

def setNames : List String :=
  ["alnum", "alpha", "ascii", "blank", "cntrl", "digit", "graph", "lower", "print", "punct",
    "space", "upper", "word", "xdigit"]

/-- Read the rest of the name of a set behind a bracket and a colon. -/
def named? (s : List Char) : Option (List Char) :=
  let s := match s with
    | '^' :: rest => rest
    | _ => s
  let name := s.takeWhile (· ≠ ':')
  match s.drop name.length with
  | ':' :: ']' :: rest => if setNames.contains (String.ofList name) then some rest else none
  | _ => none

/-- What stands behind the bracket that opens a set, past the characters that mean themselves
there. -/
def behindBracket (s : List Char) : List Char :=
  let s := match s with
    | '^' :: rest => rest
    | _ => s
  match s with
  | ']' :: rest => rest
  | _ => s.dropWhile (· = '-')

/-- Read the rest of sets of which `depth + 1` are open; `fuel` bounds the number of steps. -/
def set? : Nat → Nat → List Char → Option (List Char)
  | 0, _, _ => none
  | fuel + 1, depth, s =>
    match s with
    | [] => none
    | '[' :: ':' :: rest =>
      match named? rest with
      | some rest => set? fuel depth rest
      | none => set? fuel (depth + 1) (behindBracket (':' :: rest))
    | '[' :: rest => set? fuel (depth + 1) (behindBracket rest)
    | ']' :: rest =>
      match depth with
      | 0 => some rest
      | outer + 1 => set? fuel outer rest
    | '&' :: '&' :: rest => set? fuel depth rest
    | '-' :: '-' :: rest => set? fuel depth rest
    | '~' :: '~' :: rest => set? fuel depth rest
    | s => (members? s).bind (set? fuel depth)

def isGroupName : List Char → Bool
  | [] => false
  | c :: rest =>
    (c = '_' || Text.isAlphanumeric c && !Text.isDigit c) &&
      rest.all fun d => d = '_' || d = '.' || d = '[' || d = ']' || Text.isAlphanumeric d

/-- Are these flags, each at most once and a minus sign at most once and not last? -/
def areFlags (s : List Char) : Bool :=
  s.all (fun c => "-imsUuRx".toList.contains c && s.count c = 1) && s.getLast? ≠ some '-'

/-- How a group begins: with a name, without one, or with flags alone, which makes it no group. -/
inductive Opening where
  | named (name : List Char)
  | plain
  | flags
  deriving DecidableEq, Repr

def name? (s : List Char) : Option (Opening × List Char) :=
  let (name, rest) := Text.splitAt (· = '>') s
  rest.bind fun rest => if isGroupName name then some (.named name, rest) else none

def opening? : List Char → Option (Opening × List Char)
  | '?' :: 'P' :: '<' :: rest => name? rest
  | '?' :: '<' :: rest => name? rest
  | '?' :: rest =>
    let flags := rest.takeWhile fun c => c ≠ ':' && c ≠ ')'
    if !areFlags flags then none
    else
      match rest.drop flags.length with
      | ':' :: rest => some (.plain, rest)
      | ')' :: rest => if flags.isEmpty then none else some (.flags, rest)
      | _ => none
  | s => some (.plain, s)

/-- Read a pattern inside of `depth` groups, `names` being taken. Only what stands behind something
can be repeated. `fuel` bounds the number of steps. -/
def readFrom : Nat → Nat → List (List Char) → Bool → List Char → Bool
  | 0, _, _, _, _ => false
  | fuel + 1, depth, names, repeatable, s =>
    match s with
    | [] => depth = 0
    | '\\' :: rest =>
      match escape? rest with
      | some (_, rest) => readFrom fuel depth names true rest
      | none => false
    | '(' :: rest =>
      match opening? rest with
      | some (.named name, rest) =>
        !names.contains name && readFrom fuel (depth + 1) (name :: names) false rest
      | some (.plain, rest) => readFrom fuel (depth + 1) names false rest
      | some (.flags, rest) => readFrom fuel depth names false rest
      | none => false
    | ')' :: rest =>
      match depth with
      | 0 => false
      | outer + 1 => readFrom fuel outer names true rest
    | '[' :: rest =>
      match set? (rest.length + 1) 0 (behindBracket rest) with
      | some rest => readFrom fuel depth names true rest
      | none => false
    | '|' :: rest => readFrom fuel depth names false rest
    | '\x7b' :: _ => false
    | c :: rest =>
      if c = '*' || c = '+' || c = '?' then
        repeatable && readFrom fuel depth names true (match rest with
          | '?' :: rest => rest
          | rest => rest)
      else readFrom fuel depth names true rest

def isPattern (s : List Char) : Bool :=
  readFrom (s.length + 1) 0 [] false s

/-- Is a text a decimal number without a sign? -/
def isNumber (s : List Char) : Bool :=
  let whole := s.takeWhile Text.isDigit
  let (part, rest) := match s.drop whole.length with
    | '.' :: rest => rest.span Text.isDigit
    | rest => ([], rest)
  let isExponent (s : List Char) : Bool :=
    let digits := match s with
      | '+' :: rest => rest
      | '-' :: rest => rest
      | s => s
    !digits.isEmpty && digits.all Text.isDigit
  !(whole ++ part).isEmpty && (match rest with
    | [] => true
    | c :: rest => (c = 'e' || c = 'E') && isExponent rest)

/-- Can details be tested for a value? It is a number or a pattern; without a sign every number is a
pattern. -/
def isValue (s : List Char) : Bool :=
  isPattern s ||
    (match s with
      | '+' :: rest =>
        isNumber rest || ["inf", "infinity", "nan"].contains (Text.asciiLower (String.ofList rest))
      | _ => false)

end CatalogSearch.Log.Pattern
