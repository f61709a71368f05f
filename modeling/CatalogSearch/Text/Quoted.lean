import CatalogSearch.Text.PrintableTable
import CatalogSearch.Text.Letters

/-!
# Quoted text

A text between double quotes on one line: quotes and backslashes are escaped, and so is every
character that could not be seen.
-/
namespace CatalogSearch.Text

def isPrintable (c : Char) : Bool :=
  if c.toNat < 127 then 32 ≤ c.toNat else inRanges printableRanges c.toNat

/-- A character that joins the one before it. -/
def isCombining (c : Char) : Bool :=
  if c.toNat < 128 then false else inRanges combiningRanges c.toNat

def codePointEscape (c : Char) : List Char :=
  ['\\', 'u', '\x7b'] ++ Nat.toDigits 16 c.toNat ++ ['\x7d']

def quotedChar (c : Char) : List Char :=
  if c = '\x00' then ['\\', '0']
  else if c = '\t' then ['\\', 't']
  else if c = '\r' then ['\\', 'r']
  else if c = '\n' then ['\\', 'n']
  else if c = '"' then ['\\', '"']
  else if c = '\\' then ['\\', '\\']
  else if isCombining c || !isPrintable c then codePointEscape c
  else [c]

def quoted (s : String) : String :=
  String.ofList (['"'] ++ s.toList.flatMap quotedChar ++ ['"'])

end CatalogSearch.Text
