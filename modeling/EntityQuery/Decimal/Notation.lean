import EntityQuery.Decimal.Shortest

/-!
How a finite double is laid out as text: where positional notation ends, whether a whole number
keeps a point, and how an exponent is signed.
-/

namespace EntityQuery.Decimal

structure Layout where
  tie : Tie
  /-- Whether a number with this place of the decimal point is written without an exponent. -/
  positional : Int → Bool
  /-- Whether a whole number ends in `.0`. -/
  keepsPoint : Bool
  /-- Whether a positive exponent carries a sign. -/
  signsExponent : Bool

namespace Layout

def zeros (n : Int) : List Char := List.replicate n.toNat '0'

def writePositional (l : Layout) (d : Digits) : List Char :=
  let n : Int := d.digits.length
  if d.point ≤ 0 then '0' :: '.' :: (zeros (-d.point) ++ d.digits)
  else if d.point < n then d.digits.take d.point.toNat ++ '.' :: d.digits.drop d.point.toNat
  else d.digits ++ zeros (d.point - n) ++ (if l.keepsPoint then ['.', '0'] else [])

def writeExponent (l : Layout) (e : Int) : List Char :=
  let sign := if e < 0 then ['-'] else if l.signsExponent then ['+'] else []
  'e' :: (sign ++ Nat.toDigits 10 e.natAbs)

def writeScientific (l : Layout) (d : Digits) : List Char :=
  let mantissa := match d.digits with
    | c :: r@(_ :: _) => c :: '.' :: r
    | ds => ds
  mantissa ++ l.writeExponent (d.point - 1)

/-- The text of a finite double. -/
def write (l : Layout) (x : Binary64) : String :=
  let d := shortest l.tie x
  let body := if l.positional d.point then l.writePositional d else l.writeScientific d
  String.ofList (if x.isNegative then '-' :: body else body)

end Layout

/-- Whole numbers below `10 ^ 16` and fractions from `10 ^ -5` are written positionally. -/
def isModeratePoint (point : Int) : Bool := -5 < point && point ≤ 16

/-- Never an exponent, and a whole number is written as an integer. -/
def plain : Layout where
  tie := .up
  positional := fun _ => true
  keepsPoint := false
  signsExponent := false

/-- The plain text of any double, `NaN` and the infinities included. -/
def Binary64.toPlain (x : Binary64) : String :=
  if x.isFinite then plain.write x
  else if x.isNaN then "NaN"
  else if x.isNegative then "-inf"
  else "inf"

end EntityQuery.Decimal
