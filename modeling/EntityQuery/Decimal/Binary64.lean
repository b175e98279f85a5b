/-!
Doubles, kept as their 64 bits: a sign, eleven exponent bits and fifty-two fraction bits. A finite
double is `± mantissa · 2 ^ exponent`. They are classified, read and written, and computed with only
where a decimal is read in steps.
-/

namespace EntityQuery.Decimal

structure Binary64 where
  bits : UInt64
deriving DecidableEq, Inhabited

namespace Binary64

/-- The value of the bit of the sign. -/
def signBit : Nat := 0x8000000000000000

/-- The value of the last bit of the exponent, which is the hidden bit of the mantissa too. -/
def hiddenBit : Nat := 0x10000000000000

/-- The bits of infinity below its sign. -/
def infiniteMagnitude : Nat := 0x7FF0000000000000

def isNegative (x : Binary64) : Bool := signBit ≤ x.bits.toNat

def biasedExponent (x : Binary64) : Nat := x.bits.toNat / hiddenBit % 0x800

def fraction (x : Binary64) : Nat := x.bits.toNat % hiddenBit

def isFinite (x : Binary64) : Bool := x.biasedExponent != 2047

def isNaN (x : Binary64) : Bool := x.biasedExponent == 2047 && x.fraction != 0

/-- The fraction with its hidden leading bit, which subnormal numbers lack. -/
def mantissa (x : Binary64) : Nat :=
  if x.biasedExponent = 0 then x.fraction else hiddenBit + x.fraction

def exponent (x : Binary64) : Int := max x.biasedExponent 1 - 1075

def nan : Binary64 := ⟨0x7FF8000000000000⟩

def infinity : Binary64 := ⟨0x7FF0000000000000⟩

def negInfinity : Binary64 := ⟨0xFFF0000000000000⟩

/-- The double whose bits below the sign spell `magnitude`. -/
def ofMagnitude (negative : Bool) (magnitude : Nat) : Binary64 :=
  ⟨UInt64.ofNat ((if negative then signBit else 0) + magnitude)⟩

end Binary64

end EntityQuery.Decimal
