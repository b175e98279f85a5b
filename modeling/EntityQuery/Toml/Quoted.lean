import EntityQuery.Text.Digits

/-!
TOML strings: basic ones, in double quotes, have escapes, and literal ones, in single quotes, have
none. Either kind may be written over several lines between three quotes; a line break right after
the opening ones does not count.
-/

namespace EntityQuery.Toml.Quoted

open EntityQuery.Text (number?)

/-- A character that may stand for itself: no control but the tab. -/
def isAllowed (c : Char) : Bool := c == '\t' || (0x20 ≤ c.toNat && c.toNat != 0x7F)

def isBlank (c : Char) : Bool := c == ' ' || c == '\t'

/-- The text after a line break, if it starts with one. -/
def newline? : List Char → Option (List Char)
  | '\n' :: r => some r
  | '\r' :: '\n' :: r => some r
  | _ => none

/-- The character whose code the first `n` characters spell. -/
def codePoint (n : Nat) (cs : List Char) : Option (Char × List Char) := do
  if cs.length < n then none
  let code ← number? 16 (cs.take n)
  if code.isValidChar then some (Char.ofNat code, cs.drop n) else none

/-- The character meant by what follows a backslash. -/
def escaped : List Char → Option (Char × List Char)
  | '"' :: r => some ('"', r)
  | '\\' :: r => some ('\\', r)
  | 'b' :: r => some ('\x08', r)
  | 'e' :: r => some ('\x1b', r)
  | 'f' :: r => some ('\x0c', r)
  | 'n' :: r => some ('\n', r)
  | 'r' :: r => some ('\r', r)
  | 't' :: r => some ('\t', r)
  | 'x' :: r => codePoint 2 r
  | 'u' :: r => codePoint 4 r
  | 'U' :: r => codePoint 8 r
  | _ => none

def basic : (fuel : Nat) → List Char → Option (List Char × List Char)
  | _ + 1, '"' :: r => some ([], r)
  | fuel + 1, '\\' :: r => do
    let (c, r) ← escaped r
    let (cs, r) ← basic fuel r
    return (c :: cs, r)
  | fuel + 1, c :: r => do
    if !isAllowed c then none
    let (cs, r) ← basic fuel r
    return (c :: cs, r)
  | _, _ => none

def literal : List Char → Option (List Char × List Char)
  | '\'' :: r => some ([], r)
  | c :: r => do
    if !isAllowed c then none
    let (cs, r) ← literal r
    return (c :: cs, r)
  | [] => none

/-! Several lines -/

/-- The end of a string between three quotes. Up to two more quotes before them belong to it. -/
def closing? (quote : Char) (cs : List Char) : Option (List Char × List Char) :=
  let n := (cs.takeWhile (· == quote)).length
  if n < 3 then none
  else
    let inner := min (n - 3) 2
    some (List.replicate inner quote, cs.drop (inner + 3))

/-- Skips blanks and line breaks. -/
def skipBlankLines : List Char → List Char
  | ' ' :: r | '\t' :: r | '\n' :: r | '\r' :: '\n' :: r => skipBlankLines r
  | cs => cs

/-- What follows a backslash that ends its line: blanks and line breaks do not count. -/
def continuation? (cs : List Char) : Option (List Char) :=
  (newline? (cs.dropWhile isBlank)).map skipBlankLines

/-- One character of a string of several lines, a line break being one too. -/
def lineCharacter (cs : List Char) : Option (List Char × List Char) :=
  match cs with
  | '\n' :: r => some (['\n'], r)
  | '\r' :: '\n' :: r => some (['\r', '\n'], r)
  | c :: r => if isAllowed c then some ([c], r) else none
  | [] => none

def basicLines (fuel : Nat) (cs : List Char) : Option (List Char × List Char) :=
  match fuel with
  | 0 => none
  | fuel + 1 =>
    match closing? '"' cs, cs with
    | some r, _ => some r
    | none, '\\' :: r =>
      match continuation? r with
      | some r => basicLines fuel r
      | none => do
        let (c, r) ← escaped r
        let (cs, r) ← basicLines fuel r
        return (c :: cs, r)
    | none, cs => do
      let (c, r) ← lineCharacter cs
      let (cs, r) ← basicLines fuel r
      return (c ++ cs, r)

def literalLines (fuel : Nat) (cs : List Char) : Option (List Char × List Char) :=
  match fuel with
  | 0 => none
  | fuel + 1 =>
    match closing? '\'' cs with
    | some r => some r
    | none => do
      let (c, r) ← lineCharacter cs
      let (cs, r) ← literalLines fuel r
      return (c ++ cs, r)

def skipNewline (cs : List Char) : List Char := (newline? cs).getD cs

/-- A string on one line, if there is one: the only kind that a key may be. -/
def line? : List Char → Option (Option (List Char × List Char))
  | '"' :: r => some (basic (r.length + 1) r)
  | '\'' :: r => some (literal r)
  | _ => none

/-- A string of any kind, if there is one; the inner value is missing if it is not well written. -/
def string? : List Char → Option (Option (List Char × List Char))
  | '"' :: '"' :: '"' :: r => some (basicLines (r.length + 1) (skipNewline r))
  | '\'' :: '\'' :: '\'' :: r => some (literalLines (r.length + 1) (skipNewline r))
  | cs => line? cs

end EntityQuery.Toml.Quoted
