import CatalogSearch.Text.CodeRow
import CatalogSearch.Text.CompositionTable

/-!
# Composed normal form

One text can be written with letters that carry their marks or with marks of their own. In the
composed normal form, marks stand in the order of their classes and every letter carries the marks
that it can. Syllables of Hangul are composed by arithmetic, all else by a table. Characters that
the table does not know are left as they are.
-/
namespace CatalogSearch.Text

def compositions : List CodeRow := CodeRow.ofLines compositionLines

def markClasses : List CodeRow := CodeRow.ofLines markClassLines

/-- The class of a mark, zero for any other character. -/
def markClass (c : Char) : Nat :=
  if c.toNat < 0x300 then 0
  else ((CodeRow.find? c markClasses).map fun row => row.values.headD 0).getD 0

/-- The leading consonant, the vowel and the final consonant of a syllable of Hangul. -/
def syllableParts? (c : Char) : Option (List Char) :=
  let n := c.toNat
  if n < 0xAC00 || 0xD7A3 < n then none
  else
    let i := n - 0xAC00
    let lead := Char.ofNat (0x1100 + i / 588)
    let vowel := Char.ofNat (0x1161 + i % 588 / 28)
    if i % 28 = 0 then some [lead, vowel] else some [lead, vowel, Char.ofNat (0x11A7 + i % 28)]

/-- A character with the marks that it carries behind it; `depth` bounds their number. -/
def takeApart : Nat → Char → List Char
  | 0, c => [c]
  | depth + 1, c =>
    if c.toNat < 0xC0 then [c]
    else
      match CodeRow.find? c compositions with
      | some row =>
        match row.values with
        | [base, mark] => takeApart depth (Char.ofNat base) ++ [Char.ofNat mark]
        | _ => [c]
      | none => (syllableParts? c).getD [c]

/-- Put a mark before the later marks of higher classes; a character of class zero stays. -/
def insertMark (c : Char) : List Char → List Char
  | [] => [c]
  | d :: rest =>
    if markClass d ≠ 0 && markClass d < markClass c then d :: insertMark c rest
    else c :: d :: rest

/-- The marks behind each letter in the order of their classes; equal ones keep their order. -/
def orderMarks (s : List Char) : List Char :=
  s.foldr insertMark []

/-- The character that a base and a mark make, or two parts of a syllable. -/
def joined? (base mark : Char) : Option Char :=
  let b := base.toNat
  let m := mark.toNat
  if 0x1100 ≤ b && b < 0x1113 && 0x1161 ≤ m && m < 0x1176 then
    some (Char.ofNat (0xAC00 + ((b - 0x1100) * 21 + (m - 0x1161)) * 28))
  else if 0xAC00 ≤ b && b ≤ 0xD7A3 && (b - 0xAC00) % 28 = 0 && 0x11A7 < m && m < 0x11C3 then
    some (Char.ofNat (b + (m - 0x11A7)))
  else
    (compositions.find? fun row => row.values = [b, m]).map fun row => Char.ofNat row.first

/-- What has been put together: all characters before the current letter, the letter, and the
marks behind it that it cannot carry, each last first. -/
structure Assembly where
  done : List Char := []
  letter : Option Char := none
  marks : List Char := []

namespace Assembly

/-- All characters, last first. -/
def all (a : Assembly) : List Char :=
  a.marks ++ a.letter.toList ++ a.done

/-- Is a character of a class kept from the letter by a mark between them? -/
def isBlocked (cls : Nat) (a : Assembly) : Bool :=
  match a.marks with
  | [] => false
  | mark :: _ => cls ≤ markClass mark

def add (a : Assembly) (c : Char) : Assembly :=
  let cls := markClass c
  match if a.isBlocked cls then none else a.letter.bind fun letter => joined? letter c with
  | some letter => { a with letter := some letter }
  | none =>
    if cls = 0 then { done := a.all, letter := some c }
    else { a with marks := c :: a.marks }

end Assembly

/-- The composed normal form of a text. -/
def compose (s : List Char) : List Char :=
  ((orderMarks (s.flatMap (takeApart 8))).foldl Assembly.add {}).all.reverse

end CatalogSearch.Text
