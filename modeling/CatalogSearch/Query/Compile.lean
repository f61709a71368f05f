import CatalogSearch.Query.Node
import CatalogSearch.Text.Blank

/-!
# Compiling search text

A text between double quotes is a phrase. The phrases are cut out first; what remains is split at
the word `OR`, in any case, into alternatives of which all words must match. An operator at either
end of the remainder is dropped, and a quote without a partner is ordinary text.
-/
namespace CatalogSearch.Query

open Text

/-- Cut the phrases out of a text: the phrases in order, and what remains. `run` holds the
characters since an open quote, last first. -/
def cut (run : Option (List Char)) : List Char → List (List Char) × List Char
  | [] =>
    match run with
    | none => ([], [])
    | some run => ([], '"' :: run.reverse)
  | c :: rest =>
    match run with
    | none =>
      if c = '"' then cut (some []) rest
      else
        let (phrases, remainder) := cut none rest
        (phrases, c :: remainder)
    | some run =>
      if c = '"' then
        if run.isEmpty then
          let (phrases, remainder) := cut (some []) rest
          (phrases, '"' :: remainder)
        else
          let (phrases, remainder) := cut none rest
          (run.reverse :: phrases, remainder)
      else cut (some (c :: run)) rest

def cutPhrases (s : List Char) : List (List Char) × List Char :=
  cut none s

def isOr : List Char → Bool
  | [a, b] => (a = 'o' || a = 'O') && (b = 'r' || b = 'R')
  | _ => false

/-- The words of a text, each with the blanks before it. -/
def segments : List Char → List (List Char × List Char)
  | [] => []
  | c :: rest =>
    if isBlank c then
      match segments rest with
      | [] => []
      | (gap, word) :: more => (c :: gap, word) :: more
    else
      match segments rest with
      | ([], word) :: more => ([], c :: word) :: more
      | more => ([], [c]) :: more

def dropLeadingOr (s : List Char) : List Char :=
  let word := s.takeWhile fun c => !isBlank c
  if isOr word then dropLeading (s.drop word.length) else s

def dropTrailingOr (s : List Char) : List Char :=
  let word := (s.reverse.takeWhile fun c => !isBlank c).reverse
  if isOr word then dropTrailing (s.take (s.length - word.length)) else s

/-- Split words at the operators between them. The word behind an operator always begins the next
part, so of two operators in a row the second is a word. -/
def splitOr (part : List Char) : List (List Char × List Char) → List (List Char)
  | [] => [part]
  | [(gap, word)] => [part ++ gap ++ word]
  | (gap, word) :: (gap', word') :: rest =>
    if isOr word then part :: splitOr word' rest
    else splitOr (part ++ gap ++ word) ((gap', word') :: rest)

/-- The alternatives of a text without phrases: its parts between operators. -/
def alternatives (s : List Char) : List (List Char) :=
  match segments s with
  | [] => [[]]
  | (_, word) :: rest => splitOr word rest

def trimOperators (s : List Char) : List Char :=
  trimChars (dropTrailingOr (trimChars (dropLeadingOr (trimChars s))))

/-- A choice between clauses, or the clause itself if there is only one. -/
def choice : List Query → Query
  | [] => .matchAll
  | [q] => q
  | qs => .any qs

/-- The clauses of a search text: its phrases in order, then its alternatives in order. -/
def clauses (s : List Char) : List Query :=
  let (phrases, remainder) := cutPhrases s
  let parts := (alternatives (trimOperators remainder)).map trimChars
  phrases.map (fun p => phrase (String.ofList p)) ++
    (parts.filter fun p => !p.isEmpty).map fun p => allWords (String.ofList p)

/-- The query that a search text means. -/
def compile (raw : String) : Query :=
  choice (clauses (trimChars raw.toList))

def compileOptional (raw : Option String) : Query :=
  (raw.map compile).getD .matchAll

end CatalogSearch.Query
