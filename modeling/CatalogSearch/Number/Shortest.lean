import CatalogSearch.Number.Double

/-!
# Shortest decimal text

A finite number is written with the fewest decimal digits that read back as the same number; of
two such texts with equally many digits the nearer one is taken.
-/
namespace CatalogSearch.Double

/-- A number as whole `digits` times a power of ten. -/
structure Decimal where
  digits : Nat
  exponent : Int
  deriving DecidableEq, Repr

/-- Where a positional text ends and an exponent begins. -/
structure Layout where
  /-- The least position of the leading digit, counted from the point, that is written out. -/
  leastLead : Int
  greatestLead : Int

/-- Positional from 0.00001 to below 10^16. -/
def jsonLayout : Layout := ⟨-4, 16⟩

/-- Positional from 0.0001 to below 10^16. -/
def plainLayout : Layout := ⟨-3, 16⟩

/-- The ends of the interval of reals that round to a positive number, over the denominator of
the third component, and whether the ends belong to it. -/
def roundingInterval (x : Double) : Nat × Nat × Nat × Bool :=
  let m := x.significand
  -- in units of a quarter of the last place
  let below := if m = fractionLimit ∧ 1 < x.magnitudeBits / fractionLimit then 1 else 2
  let lo := 4 * m - below
  let hi := 4 * m + 2
  let closed := m % 2 == 0
  if 1076 ≤ x.scale then
    let unit := twoTo (x.scale - 1076)
    (lo * unit, hi * unit, 1, closed)
  else (lo, hi, twoTo (1076 - x.scale), closed)

/-- The least power of ten above a positive fraction, searched upwards from `start`. -/
def leadAbove (num den : Nat) (start : Int) : Nat → Int
  | 0 => start
  | fuel + 1 =>
    let above := if 0 ≤ start then num < den * tenTo start.toNat
      else num * tenTo (-start).toNat < den
    if above then start else leadAbove num den (start + 1) fuel

def leadOf (num den : Nat) : Int :=
  let bits : Int := (num.log2 : Int) - den.log2
  leadAbove num den (bits * 30103 / 100000 - 2) 6

/-- The nearest multiple of `10 ^ exponent` inside the rounding interval, if there is one. -/
def onGrid? (x : Double) (exponent : Int) : Option Nat :=
  let (num, den) := x.fraction
  let (lo, hi, unit, closed) := x.roundingInterval
  let up := if exponent ≤ 0 then tenTo (-exponent).toNat else 1
  let down := if 0 ≤ exponent then tenTo exponent.toNat else 1
  -- candidate c stands for c * down / up
  let inside (c : Nat) : Bool :=
    let v := c * down * unit
    if closed then lo * up ≤ v && v ≤ hi * up else lo * up < v && v < hi * up
  let floor := num * up / (den * down)
  let rest := num * up % (den * down)
  let nearest := if 2 * rest < den * down then floor
    else if den * down < 2 * rest then floor + 1
    else floor + floor % 2
  let other := if nearest == floor then floor + 1 else floor
  if inside nearest then some nearest
  else if inside other then some other
  else none

/-- Try ever finer grids until one holds the number. -/
def shortestFrom (x : Double) (lead : Int) (count : Nat) : Nat → Decimal
  | 0 => ⟨x.significand, 0⟩
  | fuel + 1 =>
    match x.onGrid? (lead - count) with
    | some c => ⟨c, lead - count⟩
    | none => shortestFrom x lead (count + 1) fuel

/-- Move trailing zeros of the digits into the exponent. -/
def Decimal.strip (d : Decimal) : Nat → Decimal
  | 0 => d
  | fuel + 1 =>
    if d.digits % 10 = 0 ∧ d.digits ≠ 0 then
      Decimal.strip ⟨d.digits / 10, d.exponent + 1⟩ fuel
    else d

/-- The shortest decimal that reads back as the magnitude of a finite, non-zero number. -/
def shortest (x : Double) : Decimal :=
  let (num, den) := x.fraction
  (shortestFrom x (leadOf num den) 1 17).strip 20

def text (layout : Layout) (x : Double) : String :=
  let sign := if x.isNegative then "-" else ""
  if x.isZero then sign ++ "0.0"
  else
    let d := x.shortest
    let ds := Nat.toDigits 10 d.digits
    let lead : Int := d.exponent + ds.length
    let body : List Char :=
      if layout.greatestLead < lead || lead < layout.leastLead then
        let head := match ds with
          | [] => []
          | [c] => [c]
          | c :: rest => c :: '.' :: rest
        head ++ ['e'] ++ (toString (lead - 1)).toList
      else if 0 ≤ d.exponent then
        ds ++ List.replicate d.exponent.toNat '0' ++ ['.', '0']
      else if 0 < lead then
        ds.take lead.toNat ++ ['.'] ++ ds.drop lead.toNat
      else ['0', '.'] ++ List.replicate (-lead).toNat '0' ++ ds
    sign ++ String.ofList body

end CatalogSearch.Double
