/-!
# Blanks

The characters that separate words, and the trimming and splitting that hang on them. Texts are
lists of characters here; the `String` forms wrap them.
-/
namespace CatalogSearch.Text

/-- A character of the White_Space property. -/
def isBlank (c : Char) : Bool :=
  let n := c.toNat
  (9 ≤ n && n ≤ 13) || n == 32 || n == 0x85 || n == 0xA0 || n == 0x1680 ||
    (0x2000 ≤ n && n ≤ 0x200A) || n == 0x2028 || n == 0x2029 || n == 0x202F || n == 0x205F ||
    n == 0x3000

def dropLeading (s : List Char) : List Char :=
  s.dropWhile isBlank

def dropTrailing (s : List Char) : List Char :=
  (s.reverse.dropWhile isBlank).reverse

/-- The text without blanks at either end. -/
def trimChars (s : List Char) : List Char :=
  dropTrailing (dropLeading s)

def trim (s : String) : String :=
  String.ofList (trimChars s.toList)

/-- The maximal runs of characters that do not satisfy `cut`, in order. -/
def runs (cut : Char → Bool) (s : List Char) : List (List Char) :=
  match s.foldr step ([], []) with
  | (run, done) => if run.isEmpty then done else run :: done
where
  /-- Grow the run that starts the rest of the text, or close it at a cut. -/
  step (c : Char) : List Char × List (List Char) → List Char × List (List Char)
    | (run, done) =>
      if cut c then ([], if run.isEmpty then done else run :: done) else (c :: run, done)

/-- The words of a text: its maximal runs without a blank. -/
def words (s : List Char) : List (List Char) :=
  runs isBlank s

/-- Lower case of the letters `A` to `Z`; any other character is left alone. -/
def asciiLower (s : String) : String :=
  String.ofList (s.toList.map Char.toLower)

/-- Does `pattern` occur in `s` as a run of neighbouring characters? -/
def containsRun (pattern : List Char) : List Char → Bool
  | [] => pattern.isEmpty
  | c :: rest => pattern.isPrefixOf (c :: rest) || containsRun pattern rest

def startsWith (lead s : String) : Bool :=
  lead.toList.isPrefixOf s.toList

def endsWith (tail s : String) : Bool :=
  tail.toList.isSuffixOf s.toList

/-- The characters of `s` up to the first one that satisfies `cut`, and those after it. -/
def splitAt (cut : Char → Bool) (s : List Char) : List Char × Option (List Char) :=
  match s.span (fun c => !cut c) with
  | (before, []) => (before, none)
  | (before, _ :: after) => (before, some after)

/-- The pieces of `s` between the characters that satisfy `cut`; always at least one. -/
def pieces (cut : Char → Bool) (s : List Char) : List (List Char) :=
  match s.foldr step ([], []) with
  | (piece, done) => piece :: done
where
  step (c : Char) : List Char × List (List Char) → List Char × List (List Char)
    | (piece, done) => if cut c then ([], piece :: done) else (c :: piece, done)

end CatalogSearch.Text
