import EntityQuery.Decimal.Reading
import EntityQuery.Text.Digits
import EntityQuery.Toml.Basic

/-!
TOML values that are written without quotes: truth values, integers in four bases, floats, dates and
times. Each reader takes a whole word and refuses it unless it has the right form. A word in the
form of a number may still be none: it may lie out of range, or have no digits, or other characters
than digits behind its first underscore.
-/

namespace EntityQuery.Toml.Scalar

open EntityQuery.Decimal
open EntityQuery.Text (digit? digitsValue hexDigit? isDigit number?)

/-! Numbers -/

/-- Each underscore stands between two digits. -/
def partsDigits (isDigit : Char → Bool) (cs : List Char) : Bool :=
  cs.head? != some '_' && cs.getLast? != some '_' &&
    (cs.zip cs.tail).all fun (c, d) => (d != '_' || isDigit c) && (c != '_' || isDigit d)

def withoutUnderscores (cs : List Char) : List Char := cs.filter (· != '_')

/-- The digits of a base that a word consists of, underscores between them left out. -/
def groupedDigits (base : Nat) (cs : List Char) : Option (List Char) :=
  let isBaseDigit := fun c => (digit? base c).isSome
  let ds := withoutUnderscores cs
  if partsDigits isBaseDigit cs && ds.all isBaseDigit then some ds else none

/-- Decimal digits, one or more, without a leading zero. -/
def decimalDigits (cs : List Char) : Option (List Char) :=
  match groupedDigits 10 cs with
  | some [] | some ('0' :: _ :: _) => none
  | ds => ds

/-- Decimal digits, one or more. -/
def anyDigits (cs : List Char) : Option (List Char) := (groupedDigits 10 cs).filter (· != [])

/-- A word without its sign, and whether that is a minus. -/
def splitSign : List Char → Bool × List Char
  | '-' :: r => (true, r)
  | '+' :: r => (false, r)
  | cs => (false, cs)

/-- Integers have 128 bits, signed or not. -/
def isIntegerInRange (n : Int) : Bool :=
  -0x80000000000000000000000000000000 ≤ n && n ≤ 0xFFFFFFFFFFFFFFFFFFFFFFFFFFFFFFFF

/-- The integer that the digits of a base spell, if they are digits at all. -/
def ofDigits (negative : Bool) (base : Nat) (ds : List Char) : Toml :=
  match number? base ds with
  | some n =>
    let n : Int := if negative then -n else n
    if ds.isEmpty || !isIntegerInRange n then .invalidNumber else .integer n
  | none => .invalidNumber

/-- What stands behind the first digits of a decimal integer: nothing, or an underscore and more.
Nothing that a float has may follow. -/
def continuesInteger (r : List Char) : Bool :=
  r.isEmpty || (r.head? == some '_' && r.all fun c => !(c ∈ ['.', 'e', 'E']))

/-- The form of a decimal integer without its sign. -/
def isDecimalInteger (cs : List Char) : Bool :=
  let (ds, r) := cs.span isDigit
  !ds.isEmpty && continuesInteger r && (cs.head? != some '0' || cs == ['0']) &&
    partsDigits (fun c => (hexDigit? c).isSome) cs

def decimalInteger? (cs : List Char) : Option Toml :=
  let (negative, r) := splitSign cs
  if isDecimalInteger r then some (ofDigits negative 10 (withoutUnderscores r)) else none

/-- An integer of another base than ten has no sign. -/
def integer? : List Char → Option Toml
  | '0' :: 'x' :: r => (groupedDigits 16 r).map (ofDigits false 16)
  | '0' :: 'o' :: r => (groupedDigits 8 r).map (ofDigits false 8)
  | '0' :: 'b' :: r => (groupedDigits 2 r).map (ofDigits false 2)
  | cs => decimalInteger? cs

/-- The exponent that a float ends in, and what stands before it. -/
def splitExponent (cs : List Char) : Option (List Char × Option Int) :=
  match cs.span fun c => c != 'e' && c != 'E' with
  | (before, []) => some (before, none)
  | (before, _ :: r) => do
    let (negative, ds) := splitSign r
    let n ← (anyDigits ds).map digitsValue
    return (before, some (if negative then -(n : Int) else n))

/-- The digits after the point, and what stands before it. -/
def splitFraction (cs : List Char) : Option (List Char × List Char) :=
  match cs.span (· != '.') with
  | (before, []) => some (before, [])
  | (before, _ :: r) => (anyDigits r).map (before, ·)

def unsignedFloat (negative : Bool) (cs : List Char) : Option Toml := do
  let (cs, exponent) ← splitExponent cs
  let (whole, fraction) ← splitFraction cs
  let whole ← decimalDigits whole
  if fraction.isEmpty && exponent.isNone then none
  let x? := Binary64.ofDecimal? negative (digitsValue (whole ++ fraction))
    (exponent.getD 0 - fraction.length)
  return (x?.map .float).getD .invalidNumber

def float? (cs : List Char) : Option Toml :=
  match splitSign cs with
  | (true, ['i', 'n', 'f']) => some (.float .negInfinity)
  | (false, ['i', 'n', 'f']) => some (.float .infinity)
  | (_, ['n', 'a', 'n']) => some (.float .nan)
  | (negative, r) => unsignedFloat negative r

/-! Dates and times -/

/-- Two digits that spell a number no larger than `most`. -/
def twoDigits (most : Nat) : List Char → Option (Nat × List Char)
  | a :: b :: r => do
    let n ← number? 10 [a, b]
    if n ≤ most then some (n, r) else none
  | _ => none

def isLeapYear (y : Nat) : Bool := y % 4 == 0 && (y % 100 != 0 || y % 400 == 0)

def daysInMonth (y m : Nat) : Nat :=
  if m = 2 then (if isLeapYear y then 29 else 28)
  else if m ∈ [4, 6, 9, 11] then 30
  else 31

/-- Reads `year-month-day`. -/
def date : List Char → Option (List Char)
  | a :: b :: c :: d :: '-' :: r => do
    let y ← number? 10 [a, b, c, d]
    let (m, r) ← twoDigits 12 r
    let '-' :: r := r | none
    let (day, r) ← twoDigits (daysInMonth y m) r
    if m = 0 ∨ day = 0 then none else some r
  | _ => none

/-- Digits after a point, one or more, if there is a point. -/
def fraction : List Char → Option (List Char)
  | '.' :: c :: r => if isDigit c then some (r.dropWhile isDigit) else none
  | '.' :: [] => none
  | r => some r

/-- Reads `hour:minute`, perhaps with seconds, which may be a leap second. -/
def time (cs : List Char) : Option (List Char) := do
  let (_, r) ← twoDigits 23 cs
  let ':' :: r := r | none
  let (_, r) ← twoDigits 59 r
  match r with
  | ':' :: r =>
    let (_, r) ← twoDigits 60 r
    fraction r
  | r => some r

/-- Reads a distance from universal time, if there is one. -/
def offset : List Char → Option (List Char)
  | 'Z' :: r | 'z' :: r => some r
  | '+' :: r | '-' :: r => do
    let (_, r) ← twoDigits 23 r
    let ':' :: r := r | none
    return (← twoDigits 59 r).2
  | r => some r

/-- What may part a date from a time. -/
def isDateTimeSeparator (c : Char) : Bool := c == 'T' || c == 't' || c == ' '

def isDateTime (cs : List Char) : Bool :=
  match date cs with
  | some [] => true
  | some (c :: r) => isDateTimeSeparator c && (time r >>= offset) == some []
  | none => time cs == some []

/-- The value of a word. -/
def ofWord? (cs : List Char) : Option Toml :=
  if cs = ['t', 'r', 'u', 'e'] then some (.boolean true)
  else if cs = ['f', 'a', 'l', 's', 'e'] then some (.boolean false)
  else if isDateTime cs then some (.dateTime (String.ofList cs))
  else integer? cs <|> float? cs

end EntityQuery.Toml.Scalar
