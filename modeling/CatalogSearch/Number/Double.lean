import CatalogSearch.Number.Power

/-!
# Double-precision numbers

A number is its 64-bit word: a sign, eleven bits of exponent and 52 bits of fraction. Words are
read as exact fractions and every operation rounds an exact fraction back to the nearest word, a
tie going to the even neighbour. No machine arithmetic is involved.
-/
namespace CatalogSearch

/-- A double-precision number as its word. -/
structure Double where
  /-- Sign, exponent and fraction, most significant first. -/
  bits : UInt64
  deriving DecidableEq, Repr, Inhabited

namespace Double

def signBit : Nat := twoTo 63

/-- One more than the largest fraction, and the weight of the exponent's lowest bit. -/
def fractionLimit : Nat := twoTo 52

def infinityBits : Nat := 2047 * fractionLimit

def magnitudeBits (x : Double) : Nat := x.bits.toNat % signBit

def isNegative (x : Double) : Bool := signBit ≤ x.bits.toNat

def isFinite (x : Double) : Bool := x.magnitudeBits < infinityBits

def isZero (x : Double) : Bool := x.magnitudeBits == 0

/-- The number with the given sign and unsigned word. -/
def ofParts (negative : Bool) (magnitude : Nat) : Double :=
  ⟨UInt64.ofNat ((if negative then signBit else 0) + magnitude)⟩

def significand (x : Double) : Nat :=
  let m := x.magnitudeBits
  if m < fractionLimit then m else fractionLimit + m % fractionLimit

/-- The power of two that weighs the significand, plus 1074. -/
def scale (x : Double) : Nat :=
  x.magnitudeBits / fractionLimit - 1

/-- A finite number without its sign, as a fraction. -/
def fraction (x : Double) : Nat × Nat :=
  if 1074 ≤ x.scale then (x.significand * twoTo (x.scale - 1074), 1)
  else (x.significand, twoTo (1074 - x.scale))

/-- The quotient rounded to the nearest whole number, a tie to the even one. -/
def roundDiv (num den : Nat) : Nat :=
  let q := num / den
  let r := num % den
  if 2 * r < den then q
  else if den < 2 * r then q + 1
  else q + q % 2

/-- The unsigned word nearest to `num / den`; beyond the largest finite number it is infinity. -/
def nearestBits (num den : Nat) : Nat :=
  if num = 0 then 0
  else
    -- the quotient in units of 2^(scale - 1074)
    let units (scale : Nat) : Nat × Nat :=
      if 1074 ≤ scale then (num, den * twoTo (scale - 1074)) else (num * twoTo (1074 - scale), den)
    -- the quotient lies between 2^(lead - 1) and 2^(lead + 1)
    let lead : Int := (num.log2 : Int) - den.log2
    let low := (lead - 53 + 1074).toNat
    let (n, d) := units low
    let scale := if twoTo 53 * d ≤ n then low + 1 else low
    let (n, d) := units scale
    min (scale * fractionLimit + roundDiv n d) infinityBits

/-- The number nearest to a signed fraction. -/
def ofFraction (negative : Bool) (num den : Nat) : Double :=
  ofParts negative (nearestBits num den)

def ofNat (n : Nat) : Double := ofFraction false n 1

/-- The number nearest to `significand * 10 ^ exponent`. Where the first digit stands far beyond all
finite numbers, or far below the smallest, the power is not worked out. -/
def ofDecimal (negative : Bool) (significand : Nat) (exponent : Int) : Double :=
  let lead := exponent + (significand.log2 * 30103 / 100000 : Nat)
  if significand = 0 || lead < -400 then ofParts negative 0
  else if 400 < lead then ofParts negative infinityBits
  else if 0 ≤ exponent then ofFraction negative (significand * tenTo exponent.toNat) 1
  else ofFraction negative significand (tenTo (-exponent).toNat)

/-- The rounded product of the magnitudes of two finite numbers. -/
def mulMagnitude (x y : Double) : Double :=
  let (a, b) := x.fraction
  let (c, d) := y.fraction
  ofFraction false (a * c) (b * d)

/-- The rounded quotient of the magnitudes of two finite numbers, the second not zero. -/
def divMagnitude (x y : Double) : Double :=
  let (a, b) := x.fraction
  let (c, d) := y.fraction
  ofFraction false (a * d) (b * c)

def addMagnitude (x y : Double) : Double :=
  let (a, b) := x.fraction
  let (c, d) := y.fraction
  ofFraction false (a * d + c * b) (b * d)

def neg (x : Double) : Double := ofParts (!x.isNegative) x.magnitudeBits

end Double

end CatalogSearch
