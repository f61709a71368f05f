/-!
# Decimal digits

Numbers as decimal text: padding to a width, grouping by thousands, and reading.
-/
namespace CatalogSearch.Text

/-- The decimal digits of a number, most significant first. -/
def digits (n : Nat) : List Char :=
  Nat.toDigits 10 n

/-- The text preceded by as many copies of `fill` as bring it to `width` characters. -/
def padLeft (fill : Char) (width : Nat) (s : List Char) : List Char :=
  List.replicate (width - s.length) fill ++ s

/-- A number with at least `width` digits. -/
def padded (width n : Nat) : String :=
  String.ofList (padLeft '0' width (digits n))

def rightAligned (width n : Nat) : String :=
  String.ofList (padLeft ' ' width (digits n))

/-- A comma before every third digit, counted from the end; `s` is in reverse order. -/
def groupReversed : List Char → List Char
  | a :: b :: c :: d :: rest => a :: b :: c :: ',' :: groupReversed (d :: rest)
  | s => s

/-- A number with its thousands set off by commas. -/
def grouped (n : Nat) : String :=
  String.ofList (groupReversed (digits n).reverse).reverse

def isDigit (c : Char) : Bool :=
  '0' ≤ c && c ≤ '9'

def digitValue (c : Char) : Nat :=
  c.toNat - 48

def ofDigits (s : List Char) : Nat :=
  s.foldl (fun n c => 10 * n + digitValue c) 0

/-- Read a non-empty run of digits, with an optional plus sign in front. -/
def natural? (s : List Char) : Option Nat :=
  let body := match s with
    | '+' :: rest => rest
    | _ => s
  if body.isEmpty || !body.all isDigit then none else some (ofDigits body)

end CatalogSearch.Text
