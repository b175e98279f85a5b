import EntityQuery.Decimal.Reading

/-!
Products and quotients of doubles without a sign, each the double nearest to what it would be
exactly; and scaling by powers of ten in so many steps, which rounds at each of them.
-/

namespace EntityQuery.Decimal.Binary64

/-- The double nearest to a quotient, infinity if that lies beyond the doubles. -/
def nearest (num den : Nat) : Binary64 :=
  ofMagnitude false (if num = 0 then 0 else min infiniteMagnitude (nearestMagnitude num den))

/-! A finite double is the first of these over the second. -/

def numerator (x : Binary64) : Nat := x.mantissa * Nat.pow 2 x.exponent.toNat

def denominator (x : Binary64) : Nat := Nat.pow 2 (-x.exponent).toNat

def mul (x y : Binary64) : Binary64 :=
  nearest (x.numerator * y.numerator) (x.denominator * y.denominator)

def div (x y : Binary64) : Binary64 :=
  nearest (x.numerator * y.denominator) (x.denominator * y.numerator)

def powerOfTen (n : Nat) : Binary64 := nearest (Nat.pow 10 n) 1

/-- The largest power of ten among the doubles. -/
def maxPower : Nat := 308

/-- None if the product lies beyond the doubles. A large quotient is taken in steps. -/
def scale? (x : Binary64) (exponent : Int) : Option Binary64 :=
  if exponent.natAbs ≤ maxPower then
    if 0 ≤ exponent then some (x.mul (powerOfTen exponent.natAbs)) |>.filter isFinite
    else some (x.div (powerOfTen exponent.natAbs))
  else if x = ofMagnitude false 0 then some x
  else if 0 ≤ exponent then none
  else scale? (x.div (powerOfTen maxPower)) (exponent + maxPower)
termination_by (-exponent).toNat
decreasing_by
  simp only [maxPower] at *
  omega

end EntityQuery.Decimal.Binary64
