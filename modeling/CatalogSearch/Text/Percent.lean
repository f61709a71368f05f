/-!
# Percent coding

Bytes outside the unreserved set are written as a percent sign and two upper-case hexadecimal
digits. A query string is written from its encoded pairs in ascending order, so the text depends
on the pairs alone and not on the order in which they were given.
-/
namespace CatalogSearch.Text

def upperHexDigit (n : Nat) : Char :=
  if n < 10 then Char.ofNat (48 + n) else Char.ofNat (55 + n)

def lowerHexDigit (n : Nat) : Char :=
  if n < 10 then Char.ofNat (48 + n) else Char.ofNat (87 + n)

/-- The value of a hexadecimal digit of either case. -/
def hexValue? (c : Char) : Option Nat :=
  let n := c.toNat
  if 48 ≤ n && n ≤ 57 then some (n - 48)
  else if 65 ≤ n && n ≤ 70 then some (n - 55)
  else if 97 ≤ n && n ≤ 102 then some (n - 87)
  else none

def lowerHex (bytes : List UInt8) : String :=
  String.ofList <| bytes.flatMap fun b =>
    [lowerHexDigit (b.toNat / 16), lowerHexDigit (b.toNat % 16)]

def utf8 (s : String) : List UInt8 :=
  s.toUTF8.toList

/-- Letters, digits and the four marks that are never encoded. -/
def isUnreserved (c : Char) : Bool :=
  (c.toNat < 128 && c.isAlphanum) || c == '-' || c == '_' || c == '.' || c == '~'

def escapeByte (b : UInt8) : List Char :=
  ['%', upperHexDigit (b.toNat / 16), upperHexDigit (b.toNat % 16)]

/-- One byte as it stands if it is unreserved, else escaped. -/
def encodeByte (b : UInt8) : List Char :=
  if isUnreserved (Char.ofNat b.toNat) then [Char.ofNat b.toNat] else escapeByte b

/-- The bytes of a text with everything but the unreserved characters escaped. -/
def uriEncode (s : String) : String :=
  String.ofList ((utf8 s).flatMap encodeByte)

/-- Read a percent-coded text back into bytes; a percent sign without two digits stands for
itself. -/
def uriDecode : List Char → List UInt8
  | '%' :: a :: b :: rest =>
    match hexValue? a, hexValue? b with
    | some x, some y => UInt8.ofNat (16 * x + y) :: uriDecode rest
    | _, _ => utf8 "%" ++ uriDecode (a :: b :: rest)
  | c :: rest => utf8 (String.singleton c) ++ uriDecode rest
  | [] => []

/-- Percent-code the characters that satisfy `p`, byte by byte. -/
def encodeWhere (p : Char → Bool) (s : List Char) : String :=
  String.ofList (s.flatMap fun c =>
    if p c then (utf8 (String.singleton c)).flatMap escapeByte else [c])

/-- A control character or one outside ASCII. -/
def isControl (c : Char) : Bool := c.toNat < 32 || 126 < c.toNat

/-- Ascending by key, then by value, both by code point. -/
def pairLE (a b : String × String) : Bool :=
  if a.1 = b.1 then decide (a.2 ≤ b.2) else decide (a.1 ≤ b.1)

/-- The query string of a list of parameters: encoded, in ascending order, joined by ampersands. -/
def canonicalQuery (params : List (String × String)) : String :=
  let encoded := params.map fun p => (uriEncode p.1, uriEncode p.2)
  String.intercalate "&" ((encoded.mergeSort pairLE).map fun p => p.1 ++ "=" ++ p.2)

end CatalogSearch.Text
