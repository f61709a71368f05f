import CatalogSearch.Json.Value
import CatalogSearch.Number.Shortest
import CatalogSearch.Text.Percent

/-!
# JSON text

Values are written without any blank between tokens. Control characters inside strings are
escaped, so a written value never holds a line break; characters outside ASCII stand as they are.
-/
namespace CatalogSearch.Json

def stringChar (c : Char) : List Char :=
  if c = '"' then ['\\', '"']
  else if c = '\\' then ['\\', '\\']
  else if c = '\n' then ['\\', 'n']
  else if c = '\r' then ['\\', 'r']
  else if c = '\t' then ['\\', 't']
  else if c.toNat = 8 then ['\\', 'b']
  else if c.toNat = 12 then ['\\', 'f']
  else if c.toNat < 32 then
    ['\\', 'u', '0', '0', Text.lowerHexDigit (c.toNat / 16), Text.lowerHexDigit (c.toNat % 16)]
  else [c]

def stringText (s : String) : List Char :=
  ['"'] ++ s.toList.flatMap stringChar ++ ['"']

def intText (n : Int) : List Char :=
  if n < 0 then '-' :: Nat.toDigits 10 n.natAbs else Nat.toDigits 10 n.natAbs

/-- A number with a fraction; one that is not finite has no JSON form and is written as `null`. -/
def floatText (x : Double) : List Char :=
  if x.isFinite then (x.text Double.jsonLayout).toList else "null".toList

mutual

def chars : Json → List Char
  | .null => "null".toList
  | .bool true => "true".toList
  | .bool false => "false".toList
  | .int n => intText n
  | .float x => floatText x
  | .str s => stringText s
  | .arr items => ['['] ++ elementChars items ++ [']']
  | .obj members => ['\x7b'] ++ memberChars members ++ ['\x7d']

def elementChars : List Json → List Char
  | [] => []
  | [item] => chars item
  | item :: rest => chars item ++ [','] ++ elementChars rest

def memberChars : List (String × Json) → List Char
  | [] => []
  | [(key, value)] => stringText key ++ [':'] ++ chars value
  | (key, value) :: rest => stringText key ++ [':'] ++ chars value ++ [','] ++ memberChars rest

end

def print (value : Json) : String :=
  String.ofList value.chars

end CatalogSearch.Json
