import CatalogSearch.Text.Percent

/-!
# Reading UTF-8

Bytes are read character by character. Where they hold no character, a step says how many bytes
are broken: as many as could have begun one. A text can be read with a replacement character for
each broken piece, or not at all, with the reason.
-/
namespace CatalogSearch.Text

/-- What the next bytes hold. -/
inductive Utf8Step where
  /-- A character of so many bytes. -/
  | char (c : Char) (size : Nat)
  /-- So many bytes that begin no character. -/
  | broken (size : Nat)
  /-- A character that the end of the text cuts off. -/
  | cut
  deriving DecidableEq, Repr

namespace Utf8Step

/-- The lead byte's part of a character: how many bytes follow, its bits, and the bounds of the
byte behind it. -/
def lead? (b : Nat) : Option (Nat × Nat × Nat × Nat) :=
  if b < 0xC2 then none
  else if b < 0xE0 then some (1, b - 0xC0, 0x80, 0xBF)
  else if b = 0xE0 then some (2, 0, 0xA0, 0xBF)
  else if b = 0xED then some (2, 13, 0x80, 0x9F)
  else if b < 0xF0 then some (2, b - 0xE0, 0x80, 0xBF)
  else if b = 0xF0 then some (3, 0, 0x90, 0xBF)
  else if b < 0xF4 then some (3, b - 0xF0, 0x80, 0xBF)
  else if b = 0xF4 then some (3, 4, 0x80, 0x8F)
  else none

/-- Read the bytes behind a lead byte: `count` are to come, `bits` are known, `size` have been
passed, and the next one lies between two bounds. -/
def follow : Nat → Nat → Nat → Nat → Nat → List UInt8 → Utf8Step
  | 0, bits, size, _, _, _ => .char (Char.ofNat bits) size
  | _ + 1, _, _, _, _, [] => .cut
  | count + 1, bits, size, low, high, b :: rest =>
    if b.toNat < low || high < b.toNat then .broken size
    else follow count (64 * bits + b.toNat % 64) (size + 1) 0x80 0xBF rest

/-- What a text that is not empty begins with. -/
def next (b : UInt8) (rest : List UInt8) : Utf8Step :=
  if b.toNat < 0x80 then .char (Char.ofNat b.toNat) 1
  else
    match lead? b.toNat with
    | some (count, bits, low, high) => follow count bits 1 low high rest
    | none => .broken 1

end Utf8Step

/-- Read bytes, with a replacement character for each broken piece; `fuel` bounds the steps. -/
def repairFrom : Nat → List UInt8 → List Char
  | 0, _ => []
  | _, [] => []
  | fuel + 1, b :: rest =>
    match Utf8Step.next b rest with
    | .char c size => c :: repairFrom fuel ((b :: rest).drop size)
    | .broken size => '\uFFFD' :: repairFrom fuel ((b :: rest).drop size)
    | .cut => ['\uFFFD']

/-- The text of bytes, with a replacement character for each broken piece. -/
def repairUtf8 (bytes : List UInt8) : String :=
  String.ofList (repairFrom bytes.length bytes)

/-- Read bytes from a place on, or say what is broken; `fuel` bounds the steps. -/
def readFrom : Nat → Nat → List UInt8 → Except String (List Char)
  | 0, _, _ => .ok []
  | _, _, [] => .ok []
  | fuel + 1, index, b :: rest =>
    match Utf8Step.next b rest with
    | .char c size => (readFrom fuel (index + size) ((b :: rest).drop size)).map (c :: ·)
    | .broken size => .error s!"invalid utf-8 sequence of {size} bytes from index {index}"
    | .cut => .error s!"incomplete utf-8 byte sequence from index {index}"

/-- The text of bytes, or what is broken. -/
def readUtf8 (bytes : List UInt8) : Except String String :=
  (readFrom bytes.length 0 bytes).map String.ofList

end CatalogSearch.Text
