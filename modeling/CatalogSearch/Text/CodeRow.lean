import CatalogSearch.Text.Blank
import CatalogSearch.Text.Percent

/-!
# Rows of character tables

Tables about many characters are kept as lines of words, one word a row: `41-5A` is a range, a
stride may follow (`100-12E/2`), and values stand behind an equals sign (`C0=41+300`). All numbers
are hexadecimal code points.
-/
namespace CatalogSearch.Text

/-- A row of a table: a run of code points with values. -/
structure CodeRow where
  first : Nat
  last : Nat
  stride : Nat := 1
  values : List Nat := []
  deriving DecidableEq, Repr, Inhabited

namespace CodeRow

def hex (s : List Char) : Nat :=
  s.foldl (fun n c => 16 * n + (hexValue? c).getD 0) 0

def ofWord (word : List Char) : CodeRow :=
  let (run, values) := splitAt (· = '=') word
  let (range, stride) := splitAt (· = '/') run
  let (first, last) := splitAt (· = '-') range
  { first := hex first
    last := hex (last.getD first)
    stride := (stride.map hex).getD 1
    values := (values.map fun s => (pieces (· = '+') s).map hex).getD [] }

def ofLines (lines : List String) : List CodeRow :=
  lines.flatMap fun line => (words line.toList).map ofWord

def covers (n : Nat) (row : CodeRow) : Bool :=
  row.first ≤ n && n ≤ row.last && (n - row.first) % row.stride == 0

def find? (c : Char) (rows : List CodeRow) : Option CodeRow :=
  rows.find? (covers c.toNat)

def has (c : Char) (rows : List CodeRow) : Bool :=
  rows.any (covers c.toNat)

end CodeRow

end CatalogSearch.Text
