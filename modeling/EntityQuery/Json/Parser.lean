import EntityQuery.Decimal.Arithmetic
import EntityQuery.Json.Basic
import EntityQuery.Text.Digits

/-!
Reading JSON text, strictly: one value with blanks around it and nothing else, arrays and objects at
most 127 deep. A number that lies beyond the doubles, an escape of half a surrogate pair and a
control character inside a string are refused. A step takes the text that is left, and gives what it
read and what it leaves.
-/

namespace EntityQuery.Json.Parser

open EntityQuery.Decimal
open EntityQuery.Text (isDigit digitsValue number?)

def isBlank (c : Char) : Bool := c == ' ' || c == '\t' || c == '\n' || c == '\r'

def skipBlanks (cs : List Char) : List Char := cs.dropWhile isBlank

/-! Numbers -/

/-- One digit or more. -/
def digits (cs : List Char) : Option (List Char × List Char) :=
  match cs.span isDigit with
  | ([], _) => none
  | r => some r

/-- Digits without a leading zero. -/
def wholeDigits : List Char → Option (List Char × List Char)
  | '0' :: c :: r => if isDigit c then none else some (['0'], c :: r)
  | cs => digits cs

def fractionDigits : List Char → Option (List Char × List Char)
  | '.' :: r => digits r
  | cs => some ([], cs)

def exponentDigits : List Char → Option (Int × List Char)
  | '+' :: r => (digits r).map fun (ds, r) => ((digitsValue ds : Int), r)
  | '-' :: r => (digits r).map fun (ds, r) => (-(digitsValue ds : Int), r)
  | r => (digits r).map fun (ds, r) => ((digitsValue ds : Int), r)

/-- None where no exponent is written. -/
def exponent : List Char → Option (Option Int × List Char)
  | 'e' :: r | 'E' :: r => (exponentDigits r).map fun (e, r) => (some e, r)
  | cs => some (none, cs)

def numberOfFloat? (x : Binary64) : Option Number :=
  if h : x.isFinite = true then some (.float x h) else none

/-- Minus zero is a double, since no integer keeps its sign. -/
def numberOfInteger? (negative : Bool) (n : UInt64) : Option Number :=
  if negative then
    let m := Int64.ofInt (-n.toNat)
    if h : m < 0 then some (.negative m h)
    else numberOfFloat? (.ofMagnitude true (Binary64.ofCount n).bits.toNat)
  else some (.natural n)

/-- Digits added to a significand for as long as 64 bits hold it, and the digits that are left. -/
def addDigits (significand : UInt64) : List Char → UInt64 × List Char
  | [] => (significand, [])
  | c :: cs =>
    let n := significand.toNat * 10 + digitsValue [c]
    if n < UInt64.size then addDigits (.ofNat n) cs else (significand, c :: cs)

/-- A double may miss the one nearest to its decimal: digits that the significand has no room for
are dropped, and what is left is scaled in doubles. -/
def numberAfterSign (negative : Bool) (cs : List Char) : Option (Number × List Char) := do
  let (whole, cs) ← wholeDigits cs
  let (fraction, cs) ← fractionDigits cs
  let (exp, cs) ← exponent cs
  let (significand, dropped) := addDigits 0 whole
  if dropped.isEmpty && fraction.isEmpty && exp.isNone then
    return (← numberOfInteger? negative significand, cs)
  let (significand, ignored) := addDigits significand fraction
  let places : Int := dropped.length - (fraction.length - ignored.length : Nat)
  let x ← (Binary64.ofCount significand).scale? (places + exp.getD 0)
  return (← numberOfFloat? (.ofMagnitude negative x.bits.toNat), cs)

def number : List Char → Option (Number × List Char)
  | '-' :: r => numberAfterSign true r
  | cs => numberAfterSign false cs

/-! Strings -/

/-- Four hexadecimal digits. -/
def codeUnit : List Char → Option (Nat × List Char)
  | a :: b :: c :: d :: r => (number? 16 [a, b, c, d]).map (·, r)
  | _ => none

/-- The character that one code unit is, or two that form a surrogate pair. -/
def escapedCodePoint (cs : List Char) : Option (Char × List Char) := do
  let (high, r) ← codeUnit cs
  if high < 0xD800 ∨ 0xDFFF < high then return (Char.ofNat high, r)
  if 0xDC00 ≤ high then none
  match r with
  | '\\' :: 'u' :: r =>
    let (low, r) ← codeUnit r
    if low < 0xDC00 ∨ 0xDFFF < low then none
    return (Char.ofNat (0x10000 + (high - 0xD800) * 0x400 + (low - 0xDC00)), r)
  | _ => none

/-- The character meant by what follows a backslash. -/
def escaped : List Char → Option (Char × List Char)
  | '"' :: r => some ('"', r)
  | '\\' :: r => some ('\\', r)
  | '/' :: r => some ('/', r)
  | 'b' :: r => some ('\x08', r)
  | 'f' :: r => some ('\x0c', r)
  | 'n' :: r => some ('\n', r)
  | 'r' :: r => some ('\r', r)
  | 't' :: r => some ('\t', r)
  | 'u' :: r => escapedCodePoint r
  | _ => none

/-- The characters of a string after its opening quote, and the text after its closing one. -/
def stringBody : (fuel : Nat) → List Char → Option (List Char × List Char)
  | 0, _ => none
  | _ + 1, [] => none
  | _ + 1, '"' :: r => some ([], r)
  | fuel + 1, '\\' :: r => do
    let (c, r) ← escaped r
    let (cs, r) ← stringBody fuel r
    return (c :: cs, r)
  | fuel + 1, c :: r => do
    if c.toNat < 0x20 then none
    let (cs, r) ← stringBody fuel r
    return (c :: cs, r)

/-!
Values. At most two steps meet at one character, so twice the length of a text is fuel enough.
-/

def word (expected : List Char) (cs : List Char) : Option (Unit × List Char) :=
  if expected.isPrefixOf cs then some ((), cs.drop expected.length) else none

mutual

def value (fuel : Nat) (depth : Nat) (cs : List Char) : Option (Json × List Char) :=
  match fuel with
  | 0 => none
  | fuel + 1 =>
    match skipBlanks cs with
    | 'n' :: r => (word ['u', 'l', 'l'] r).map fun ((), r) => (.null, r)
    | 't' :: r => (word ['r', 'u', 'e'] r).map fun ((), r) => (.bool true, r)
    | 'f' :: r => (word ['a', 'l', 's', 'e'] r).map fun ((), r) => (.bool false, r)
    | '"' :: r => (stringBody fuel r).map fun (s, r) => (.string (String.ofList s), r)
    | '[' :: r =>
      if depth = 0 then none else
        match skipBlanks r with
        | ']' :: r => some (.array [], r)
        | r => (items fuel (depth - 1) r).map fun (js, r) => (.array js, r)
    | '\x7b' :: r =>
      if depth = 0 then none else
        match skipBlanks r with
        | '\x7d' :: r => some (.object .empty, r)
        | r => (members fuel (depth - 1) r).map fun (ms, r) => (.object (.ofList ms), r)
    | cs => (number cs).map fun (n, r) => (.number n, r)

/-- The items of an array up to its end, one or more. -/
def items (fuel : Nat) (depth : Nat) (cs : List Char) : Option (List Json × List Char) :=
  match fuel with
  | 0 => none
  | fuel + 1 => do
    let (j, r) ← value fuel depth cs
    match skipBlanks r with
    | ',' :: r => (items fuel depth r).map fun (js, r) => (j :: js, r)
    | ']' :: r => some ([j], r)
    | _ => none

/-- The members of an object up to its end, one or more. -/
def members (fuel : Nat) (depth : Nat) (cs : List Char) :
    Option (List (String × Json) × List Char) :=
  match fuel with
  | 0 => none
  | fuel + 1 => do
    let '"' :: r := skipBlanks cs | none
    let (key, r) ← stringBody fuel r
    let ':' :: r := skipBlanks r | none
    let (j, r) ← value fuel depth r
    let member := (String.ofList key, j)
    match skipBlanks r with
    | ',' :: r => (members fuel depth r).map fun (ms, r) => (member :: ms, r)
    | '\x7d' :: r => some ([member], r)
    | _ => none

end

end Parser

/-- How deep arrays and objects may be nested. -/
def maxDepth : Nat := 127

/-- The value that a whole text is. -/
def parse? (text : String) : Option Json := do
  let cs := text.toList
  let (j, r) ← Parser.value (2 * cs.length + 2) maxDepth cs
  if (Parser.skipBlanks r).isEmpty then some j else none

end EntityQuery.Json
