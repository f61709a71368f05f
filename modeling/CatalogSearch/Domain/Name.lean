import CatalogSearch.Domain.Direction
import CatalogSearch.Domain.MappingTable
import CatalogSearch.Domain.Punycode
import CatalogSearch.Text.NormalForm

/-!
# Domain names

A domain name may be typed with characters of any script. It is looked up under a name in ASCII:
characters are brought to one spelling, the text to composed normal form, and each label that then
holds more than ASCII is written in Punycode behind the letters `xn--`. A label that is typed in
Punycode must be one that could have been written so.
-/
namespace CatalogSearch.Domain

open Text (CodeRow)

def known : List CodeRow := CodeRow.ofLines knownLines

def ignored : List CodeRow := CodeRow.ofLines ignoredLines

def mapped : List CodeRow := CodeRow.ofLines mappedLines

/-- The spelling of one character, if a domain name may hold it. -/
def spelling? (c : Char) : Option (List Char) :=
  if c.toNat < 128 then some [c.toLower]
  else if CodeRow.has c ignored then some []
  else
    match CodeRow.find? c mapped with
    | some row =>
      match row.values with
      | [image] => some [Char.ofNat (image + (c.toNat - row.first))]
      | images => some (images.map Char.ofNat)
    | none => if CodeRow.has c known then some [c] else none

def isSpelled (c : Char) : Bool := spelling? c = some [c]

/-- A text in one spelling and in composed normal form. -/
def spell? (s : List Char) : Option (List Char) :=
  (s.mapM spelling?).map fun parts => Text.compose parts.flatten

/-- Zero-width non-joiner: it parts letters that would join. -/
def nonJoiner : Char := '\u200C'

/-- Zero-width joiner: it joins letters that would not. -/
def joiner : Char := '\u200D'

/-- Is every joining control of a label in its place? Both may stand behind a mark that takes a
vowel away; the non-joiner may also part two letters that would join. `before` holds the
characters passed, last first. -/
def isWellJoined (before : List Char) : List Char → Bool
  | [] => true
  | c :: rest =>
    let killed := before.head?.any fun d => Text.markClass d = 9
    (if c = joiner then killed
      else if c = nonJoiner then killed || (joinsNext before && joinsPrevious rest)
      else true) && isWellJoined (c :: before) rest

/-- May a label stand in a domain name, apart from its direction? -/
def isLabel (label : List Char) : Bool :=
  !(label.head?.any fun c => CodeRow.has c marks) && isWellJoined [] label

/-- A label in its characters and in ASCII. -/
structure Label where
  text : List Char
  ascii : List Char
  deriving DecidableEq, Repr

/-- The letters that begin a label in Punycode. -/
def codedLead : List Char := "xn--".toList

def Label.read? (s : List Char) : Option Label :=
  if codedLead.isPrefixOf s then do
    if s.any fun c => 128 ≤ c.toNat then none
    let text ← Punycode.decode (s.drop 4)
    if text.all (fun c => c.toNat < 128) || !text.all isSpelled || Text.compose text ≠ text ||
        codedLead.isPrefixOf text || !isLabel text then none
    return ⟨text, s⟩
  else if !isLabel s then none
  else if s.all fun c => c.toNat < 128 then some ⟨s, s⟩
  else some ⟨s, codedLead ++ Punycode.encode s⟩

def toAscii? (s : List Char) : Option (List Char) := do
  let labels ← (Text.pieces (· = '.') (← spell? s)).mapM Label.read?
  if labels.any (fun label => runsRight label.text) &&
      !labels.all (fun label => isOrdered label.text) then none
  return List.intercalate ['.'] (labels.map Label.ascii)

end CatalogSearch.Domain
