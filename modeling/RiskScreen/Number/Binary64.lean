import RiskScreen.Text.Digits

/-!
# Binary floating point with exact arithmetic

Magnitudes of the 64-bit binary format: a mantissa below `2 ^ 53` times a power of two that
is at least `2 ^ -1074`. Rounding takes an exact ratio to the nearest magnitude, a tie to the
even mantissa. `shortest` is the decimal with the fewest digits that rounds back.
-/

namespace RiskScreen

/-- The magnitude `mantissa * 2 ^ exponent`. -/
structure Binary64 where
  mantissa : Nat
  exponent : Int
  deriving DecidableEq, Repr

namespace Binary64

/-- The least exponent of the format. -/
def minExponent : Int := -1074

/-- The largest exponent of the format. -/
def maxExponent : Int := 971

/-- One more than the largest mantissa. -/
def mantissaLimit : Nat := 9007199254740992

/-- The least mantissa of full length. -/
def smallestFull : Nat := 4503599627370496

/-- The magnitude zero. -/
def zero : Binary64 := ⟨0, minExponent⟩

/-- The magnitude as numerator and denominator. -/
def ratio (x : Binary64) : Nat × Nat :=
  if 0 ≤ x.exponent then (x.mantissa * Nat.pow 2 x.exponent.toNat, 1)
  else (x.mantissa, Nat.pow 2 (-x.exponent).toNat)

/-- Numerator and denominator of a ratio divided by `2 ^ exponent`. -/
def unitsOf (exponent : Int) (num den : Nat) : Nat × Nat :=
  if 0 ≤ exponent then (num, den * Nat.pow 2 exponent.toNat)
  else (num * Nat.pow 2 (-exponent).toNat, den)

/-- The quotient rounded to the nearest natural number, a tie to the even one. -/
def roundQuotient (num den : Nat) : Nat :=
  let quotient := num / den
  let twice := 2 * (num % den)
  if den < twice || (twice = den && quotient % 2 = 1) then quotient + 1 else quotient

/-- The exponent at which a positive ratio has a mantissa of full length, or the least one. -/
def exponentOf (num den : Nat) : Int :=
  let guess := max ((Nat.log2 num : Int) - (Nat.log2 den : Int) - 52) minExponent
  let units := unitsOf guess num den
  if units.1 / units.2 < smallestFull then max (guess - 1) minExponent else guess

/-- The magnitude nearest to a ratio, unless it is too large. -/
def ofRatio (num den : Nat) : Option Binary64 :=
  if num = 0 then some zero
  else
    let exponent := exponentOf num den
    let units := unitsOf exponent num den
    let rounded := roundQuotient units.1 units.2
    let result : Binary64 :=
      if rounded = mantissaLimit then ⟨smallestFull, exponent + 1⟩ else ⟨rounded, exponent⟩
    if maxExponent < result.exponent then none else some result

/-- The rounded product. -/
def mul (x y : Binary64) : Option Binary64 :=
  ofRatio (x.ratio.1 * y.ratio.1) (x.ratio.2 * y.ratio.2)

/-- The rounded quotient. -/
def div (x y : Binary64) : Option Binary64 :=
  ofRatio (x.ratio.1 * y.ratio.2) (x.ratio.2 * y.ratio.1)

/-- The magnitude nearest to a power of ten. -/
def tenTo (power : Nat) : Option Binary64 :=
  ofRatio (Nat.pow 10 power) 1

/-- The largest power of ten one scaling step multiplies or divides by. -/
def maxPower : Nat := 308

/-- `x` divided `steps` times by the largest power, and then by `10 ^ power`. Zero stays. -/
def scaleDown (power : Nat) : Nat → Binary64 → Option Binary64
  | 0, x => (tenTo power).bind x.div
  | steps + 1, x =>
      if x.mantissa = 0 then some x
      else (tenTo maxPower).bind fun large => (x.div large).bind (scaleDown power steps)

/-- The magnitude `significand * 10 ^ exponent`, by one rounded operation per scaling step. -/
def ofScientific (significand : Nat) (exponent : Int) : Option Binary64 :=
  (ofRatio significand 1).bind fun x =>
    if 0 ≤ exponent then
      if exponent.toNat ≤ maxPower then (tenTo exponent.toNat).bind x.mul
      else if x.mantissa = 0 then some x
      else none
    else
      let power := (-exponent).toNat
      if power ≤ maxPower then scaleDown power 0 x
      else
        let steps := (power - 1) / maxPower
        scaleDown (power - steps * maxPower) steps x

/-- A decimal: `digits * 10 ^ exponent`. -/
structure Digits where
  digits : Nat
  exponent : Int
  deriving DecidableEq, Repr

/-- Half the distance to the next smaller magnitude, in quarters of a unit of the last place:
the distance halves below a power of two. -/
def quartersBelow (x : Binary64) : Nat :=
  if x.mantissa = smallestFull && minExponent < x.exponent then 1 else 2

/-- Whether the ratio `num / den` rounds to `x`. -/
def roundsBack (x : Binary64) (num den : Nat) : Bool :=
  let value := x.ratio
  -- in quarters of a unit of the last place, over the common denominator
  let unit := (Binary64.mk 1 x.exponent).ratio
  let scaled := 4 * num * unit.2 * value.2
  let centre := 4 * value.1 * unit.2 * den
  let quarter := unit.1 * value.2 * den
  let low := centre - x.quartersBelow * quarter
  let high := centre + 2 * quarter
  if x.mantissa % 2 = 0 then low ≤ scaled && scaled ≤ high else low < scaled && scaled < high

/-- The same decimal, with the next power of ten as a single digit. -/
def Digits.carried (places : Nat) (d : Digits) : Digits :=
  if d.digits = Nat.pow 10 places then ⟨1, d.exponent + places⟩ else d

/-- The number of decimal digits before the point of a ratio; not positive below a tenth. -/
def decimalMagnitude (num den : Nat) : Int :=
  if den ≤ num then ((Text.decimalDigits (num / den)).length : Int)
  else 1 - ((Text.decimalDigits ((den + num - 1) / num - 1)).length : Int)

/-- A ratio times `10 ^ -scale`. -/
def atScale (scale : Int) (num den : Nat) : Nat × Nat :=
  if 0 ≤ scale then (num, den * Nat.pow 10 scale.toNat)
  else (num * Nat.pow 10 (-scale).toNat, den)

/-- The decimal of `places` digits nearest to `x` among its two neighbours on that grid, if
one of them rounds back. -/
def withPlaces (x : Binary64) (places : Nat) : Option Digits :=
  let value := x.ratio
  let scale := decimalMagnitude value.1 value.2 - places
  let grid := atScale scale value.1 value.2
  let below := grid.1 / grid.2
  let isBack := fun digits : Nat =>
    let written := atScale (-scale) digits 1
    roundsBack x written.1 written.2
  let nearest := roundQuotient grid.1 grid.2
  let other := if nearest = below then below + 1 else below
  if isBack nearest then some (Digits.carried places ⟨nearest, scale⟩)
  else if isBack other then some (Digits.carried places ⟨other, scale⟩)
  else none

/-- The first of the lengths from `places` on at which a decimal rounds back. -/
def shortestFrom (x : Binary64) (places : Nat) : Nat → Digits
  | 0 => (withPlaces x places).getD ⟨0, 0⟩
  | more + 1 =>
      match withPlaces x places with
      | some digits => digits
      | none => shortestFrom x (places + 1) more

/-- The decimal with the fewest digits that rounds back to `x`. -/
def shortest (x : Binary64) : Digits :=
  if x.mantissa = 0 then ⟨0, 0⟩ else shortestFrom x 1 16

/-- A decimal without an exponent: zeros fill the places up to the point. -/
def Digits.plain (d : Digits) : List Char :=
  let digits := Text.decimalDigits d.digits
  if 0 ≤ d.exponent then digits ++ List.replicate d.exponent.toNat '0'
  else
    let places := (-d.exponent).toNat
    let filled := Text.padded (places + 1) d.digits
    filled.take (filled.length - places) ++ '.' :: filled.drop (filled.length - places)

end Binary64

end RiskScreen
