import EntityQuery.Decimal.Notation
import EntityQuery.Json.Basic

/-!
The compact text of a JSON value: no blanks, members in their order, and only those characters
escaped that JSON does not allow as they are.
-/

namespace EntityQuery.Json

open EntityQuery.Decimal

/-- Numbers are written shortest, with a point, and with a signed exponent only when they are very
large or very small. -/
def numberLayout : Layout where
  tie := .even
  positional := isModeratePoint
  keepsPoint := true
  signsExponent := true

def Number.print : Number → String
  | .natural n => toString n.toNat
  | .negative n _ => toString n.toInt
  | .float x _ => numberLayout.write x

/-- A control character by its code, which has two digits. -/
def controlEscape (c : Char) : List Char :=
  let digits := Nat.toDigits 16 c.toNat
  ['\\', 'u'] ++ List.replicate (4 - digits.length) '0' ++ digits

def escapeChar (c : Char) : List Char :=
  if c = '"' then ['\\', '"']
  else if c = '\\' then ['\\', '\\']
  else if c = '\x08' then ['\\', 'b']
  else if c = '\x0c' then ['\\', 'f']
  else if c = '\n' then ['\\', 'n']
  else if c = '\r' then ['\\', 'r']
  else if c = '\t' then ['\\', 't']
  else if c.toNat < 0x20 then controlEscape c
  else [c]

def printString (s : String) : String :=
  String.ofList ('"' :: (s.toList.flatMap escapeChar ++ ['"']))

mutual

def print : Json → String
  | .null => "null"
  | .bool b => if b then "true" else "false"
  | .number n => n.print
  | .string s => printString s
  | .array items => "[" ++ String.intercalate "," (printItems items) ++ "]"
  | .object ⟨members⟩ => "\x7b" ++ String.intercalate "," (printMembers members) ++ "\x7d"

def printItems : List Json → List String
  | [] => []
  | j :: js => j.print :: printItems js

def printMembers : List (String × Json) → List String
  | [] => []
  | (k, j) :: ms => (printString k ++ ":" ++ j.print) :: printMembers ms

end

end EntityQuery.Json
