import EntityQuery.Decimal.Shortest

/-!
The double nearest to a decimal `digits · 10 ^ exponent`, a value half way going to the even
mantissa.
-/

namespace EntityQuery.Decimal

/-- The least power of two that a double's mantissa may be multiplied by. -/
def minExponent : Int := -1074

/-- The exponent that leaves 53 bits of `num / den` before the point, or the least one there is. -/
def binaryExponent (num den : Nat) : Int :=
  let e : Int := (num.log2 : Int) - den.log2 - 53
  let wide := 2 * Binary64.hiddenBit * Nat.pow 2 e.toNat * den ≤ num * Nat.pow 2 (-e).toNat
  max minExponent (if wide then e + 1 else e)

/-- The bits below the sign of the double nearest to a positive quotient. A mantissa that rounds up
to `2 ^ 53` carries into the exponent bits, as it should. -/
def nearestMagnitude (num den : Nat) : Nat :=
  let e := binaryExponent num den
  let m := roundDiv .even (num * Nat.pow 2 (-e).toNat) (den * Nat.pow 2 e.toNat)
  (e - minExponent).toNat * Binary64.hiddenBit + m

/-- None if the decimal rounds beyond the largest double. The first two tests keep the powers of
ten small: such decimals lie far outside the range of doubles. -/
def Binary64.ofDecimal? (negative : Bool) (digits : Nat) (exponent : Int) : Option Binary64 :=
  if digits = 0 ∨ digits.log2 + exponent < -400 then
    some (ofMagnitude negative 0)
  else if 400 < exponent then none
  else
    let m := nearestMagnitude (digits * Nat.pow 10 exponent.toNat) (Nat.pow 10 (-exponent).toNat)
    if m < infiniteMagnitude then some (ofMagnitude negative m) else none

/-- The double nearest to a count, which is always in range. -/
def Binary64.ofCount (n : UInt64) : Binary64 :=
  if n = 0 then ofMagnitude false 0 else ofMagnitude false (nearestMagnitude n.toNat 1)

end EntityQuery.Decimal
