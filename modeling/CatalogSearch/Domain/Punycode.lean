import CatalogSearch.Text.Blank

/-!
# Punycode

A label with characters outside ASCII is written as its ASCII characters, a dash, and a row of
small numbers that say which other characters go where. The numbers have digits of base 36, the
lowest first; how far each digit reaches is adapted to the numbers before.
-/
namespace CatalogSearch.Domain.Punycode

/-- The digit of a value below 36: letters, then `0` to `9`. -/
def digit (d : Nat) : Char :=
  if d < 26 then Char.ofNat (97 + d) else Char.ofNat (22 + d)

def digitValue? (c : Char) : Option Nat :=
  let n := c.toNat
  if 97 ≤ n && n ≤ 122 then some (n - 97)
  else if 65 ≤ n && n ≤ 90 then some (n - 65)
  else if 48 ≤ n && n ≤ 57 then some (n - 22)
  else none

/-- From which value on the digit at place `k` is followed by another one. -/
def threshold (k bias : Nat) : Nat :=
  if k ≤ bias then 1 else if bias + 26 ≤ k then 26 else k - bias

theorem threshold_le (k bias : Nat) : threshold k bias ≤ 26 := by
  unfold threshold; split <;> (try split) <;> omega

theorem threshold_pos (k bias : Nat) : 0 < threshold k bias := by
  unfold threshold; split <;> (try split) <;> omega

/-- Divide a step until it is small, counting places. -/
def settle (delta k : Nat) : Nat :=
  if 455 < delta then settle (delta / 35) (k + 36) else k + 36 * delta / (delta + 38)
termination_by delta
decreasing_by exact Nat.div_lt_self (by omega) (by omega)

/-- The bias after a step in a text of `count` characters. -/
def adapt (delta count : Nat) (first : Bool) : Nat :=
  let delta := if first then delta / 700 else delta / 2
  settle (delta + delta / count) 0

/-- The digits of a number, from place `k` on. -/
def digits (bias k n : Nat) : List Char :=
  let t := threshold k bias
  if n < t then [digit n]
  else digit (t + (n - t) % (36 - t)) :: digits bias (k + 36) ((n - t) / (36 - t))
termination_by n
decreasing_by
  have := threshold_le k bias
  have := threshold_pos k bias
  exact Nat.lt_of_le_of_lt (Nat.div_le_self _ _) (by omega)

/-- What has been written: the digits, last first, the step since the last of them, the bias, and
how many characters are in place. -/
structure Writer where
  text : List Char := []
  delta : Nat := 0
  bias : Nat := 72
  count : Nat

/-- Pass one character while those of code point `n` are put in place; `basic` characters are
ASCII. -/
def Writer.pass (basic n : Nat) (w : Writer) (c : Char) : Writer :=
  if c.toNat < n then { w with delta := w.delta + 1 }
  else if c.toNat = n then
    { text := (digits w.bias 36 w.delta).reverse ++ w.text
      delta := 0
      bias := adapt w.delta (w.count + 1) (w.count = basic)
      count := w.count + 1 }
  else w

/-- Put the characters of the given code points, which ascend, in place; all below `n` are. -/
def writeFrom (label : List Char) (basic : Nat) (n : Nat) (w : Writer) : List Nat → List Char
  | [] => w.text.reverse
  | m :: rest =>
    let w := { w with delta := w.delta + (m - n) * (w.count + 1) }
    let w := label.foldl (Writer.pass basic m) w
    writeFrom label basic (m + 1) { w with delta := w.delta + 1 } rest

/-- Code points in ascending order, each once. -/
def ascending (codes : List Nat) : List Nat :=
  (codes.mergeSort (· ≤ ·)).eraseDups

def encode (label : List Char) : List Char :=
  let basic := label.filter fun c => c.toNat < 128
  let others := ascending ((label.filter fun c => 128 ≤ c.toNat).map Char.toNat)
  basic ++ (if basic.isEmpty then [] else ['-']) ++
    writeFrom label basic.length 128 { count := basic.length } others

/-- Read a number from place `k` on; its lower digits come to `n`, and the next one weighs
`weight`. -/
def readNumber (bias : Nat) : List Char → Nat → Nat → Nat → Option (Nat × List Char)
  | [], _, _, _ => none
  | c :: rest, k, weight, n =>
    match digitValue? c with
    | none => none
    | some d =>
      let t := threshold k bias
      if d < t then some (n + d * weight, rest)
      else readNumber bias rest (k + 36) (weight * (36 - t)) (n + d * weight)

/-- Read digits to the end, putting characters in place: the next one has at least code point `n`
and goes to place `i` or behind it. `fuel` bounds their number. -/
def readFrom (label : List Char) (bias n i : Nat) : Nat → List Char → Option (List Char)
  | _, [] => some label
  | 0, _ => none
  | fuel + 1, s => do
    let (reached, rest) ← readNumber bias s 36 1 i
    let count := label.length + 1
    let code := n + reached / count
    if code.isValidChar then
      readFrom (label.insertIdx (reached % count) (Char.ofNat code))
        (adapt (reached - i) count (i = 0)) code (reached % count + 1) fuel rest
    else none

def decode (s : List Char) : Option (List Char) :=
  let (tail, basic) := Text.splitAt (· = '-') s.reverse
  readFrom (basic.getD []).reverse 72 128 0 s.length tail.reverse

end CatalogSearch.Domain.Punycode
