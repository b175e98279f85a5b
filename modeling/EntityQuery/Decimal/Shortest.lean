import EntityQuery.Decimal.Binary64

/-!
The shortest decimal that reads back as a given double. The reals that round to a double form an
interval around it; the decimal is taken from the coarsest grid of multiples of a power of ten that
has a point in that interval, and of two such points the nearer is taken.
-/

namespace EntityQuery.Decimal

/-- Which of its two neighbours a value exactly between them takes. -/
inductive Tie where
  | even
  | up
deriving DecidableEq

def Tie.roundsUp (t : Tie) (below : Nat) : Bool :=
  match t with
  | .even => below % 2 == 1
  | .up => true

/-- The quotient of two naturals, rounded to nearest. -/
def roundDiv (tie : Tie) (num den : Nat) : Nat :=
  let q := num / den
  match compare (2 * (num % den)) den with
  | .lt => q
  | .gt => q + 1
  | .eq => if tie.roundsUp q then q + 1 else q

/-- The reals from `low / unit` to `high / unit` that round to the double `middle / unit`. -/
structure Interval where
  low : Nat
  middle : Nat
  high : Nat
  unit : Nat
  closed : Bool

namespace Interval

/-- Half a spacing to either side of a positive double, a quarter below the least double of a
binade; a value half way rounds to the even mantissa, so the ends belong to that one. -/
def around (x : Binary64) : Interval :=
  let m := 4 * x.mantissa
  let q := x.exponent - 2
  let scale := Nat.pow 2 q.toNat
  let gap := if x.fraction = 0 ∧ 1 < x.biasedExponent then 1 else 2
  { low := (m - gap) * scale, middle := m * scale, high := (m + 2) * scale,
    unit := Nat.pow 2 (-q).toNat, closed := x.mantissa % 2 == 0 }

/-- The interval in multiples of `10 ^ k`. -/
def scaled (i : Interval) (k : Int) : Interval :=
  let f := Nat.pow 10 (-k).toNat
  { i with low := i.low * f, middle := i.middle * f, high := i.high * f,
           unit := i.unit * Nat.pow 10 k.toNat }

def contains (i : Interval) (n : Nat) : Bool :=
  let p := n * i.unit
  if i.closed then i.low ≤ p && p ≤ i.high else i.low < p && p < i.high

/-- The integer of the interval that is nearest to its middle. -/
def nearest? (i : Interval) (tie : Tie) : Option Nat :=
  let below := i.middle / i.unit
  match i.contains below, i.contains (below + 1) with
  | false, false => none
  | true, false => some below
  | false, true => some (below + 1)
  | true, true => some (roundDiv tie i.middle i.unit)

end Interval

/-- Decimal digits and the place of the decimal point, counted from the first digit:
`0.d₁d₂… · 10 ^ point`. -/
structure Digits where
  digits : List Char
  point : Int

def Digits.zero : Digits := ⟨['0'], 1⟩

def Digits.ofScaled (n : Nat) (k : Int) : Digits :=
  let ds := Nat.toDigits 10 n
  ⟨ds, ds.length + k⟩

/-- Exponents of ten from the largest double down to the smallest. -/
def gridExponents : List Int := (List.range 633).map fun (i : Nat) => 308 - (i : Int)

/-- The shortest digits of the magnitude of a finite double. -/
def shortest (tie : Tie) (x : Binary64) : Digits :=
  let i := Interval.around x
  let found := gridExponents.findSome? fun k => (i.scaled k).nearest? tie |>.map (·, k)
  match found with
  | some (n, k) => if x.mantissa = 0 then .zero else .ofScaled n k
  | none => .zero

end EntityQuery.Decimal
