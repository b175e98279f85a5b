import EntityQuery.Toml.Outline
import EntityQuery.Toml.Quoted
import EntityQuery.Toml.Scalar

/-!
Reading TOML documents: a line sets a key, opens a table under a header, or says nothing. Arrays and
inline tables may run over several lines, with comments and a comma at their end, and are at most 80
deep; a dotted key has at most 80 keys. A byte order mark before the document does not count.
-/

namespace EntityQuery.Toml.Document

open EntityQuery.Toml.Quoted (isAllowed isBlank newline?)

def skipBlanks (cs : List Char) : List Char := cs.dropWhile isBlank

/-- Skips a comment up to the end of its line. -/
def skipComment (cs : List Char) : Option (List Char) :=
  match cs with
  | '#' :: r =>
    let r := r.dropWhile isAllowed
    if r.isEmpty || (newline? r).isSome then some r else none
  | r => some r

/-- Skips blanks, comments and line breaks. -/
def skipLines (fuel : Nat) (cs : List Char) : Option (List Char) := do
  let r ← skipComment (skipBlanks cs)
  match fuel, newline? r with
  | fuel + 1, some r => skipLines fuel r
  | _, _ => some r

/-- Skips what may follow a statement, up to the next line. -/
def endLine (cs : List Char) : Option (List Char) := do
  let r ← skipComment (skipBlanks cs)
  if r.isEmpty then some r else newline? r

/-! Keys -/

def isKeyChar (c : Char) : Bool := c.isAlphanum || c == '-' || c == '_'

def simpleKey (cs : List Char) : Option (String × List Char) :=
  match Quoted.line? cs with
  | some r => r.map fun (key, r) => (String.ofList key, r)
  | none =>
    match cs.span isKeyChar with
    | ([], _) => none
    | (key, r) => some (String.ofList key, r)

/-- At most `limit` keys with dots between them: the last one, with the path of the tables before
it, and the text after the blanks that follow. -/
def dottedKeyUpTo (limit : Nat) (cs : List Char) : Option ((List String × String) × List Char) :=
  match limit with
  | 0 => none
  | limit + 1 => do
    let (key, r) ← simpleKey (skipBlanks cs)
    match skipBlanks r with
    | '.' :: r =>
      let ((path, last), r) ← dottedKeyUpTo limit r
      return ((key :: path, last), r)
    | r => return (([], key), r)

/-- How deep arrays and inline tables may be nested, and how many keys a dotted one may have. -/
def maxDepth : Nat := 80

def dottedKey (cs : List Char) : Option ((List String × String) × List Char) :=
  dottedKeyUpTo maxDepth cs

/-! Values -/

/-- A character that does not end a word. -/
def isWordChar (c : Char) : Bool :=
  !(isBlank c || c ∈ ['\n', '\r', '#', ',', '=', '[', ']', '\x7b', '\x7d'])

/-- A character that goes on with a word after tabs. -/
def isWordStart (c : Char) : Bool := isWordChar c && !(c ∈ ['.', '"', '\''])

/-- Splits off a word. It may hold tabs, but does not end in them. -/
def splitWord : List Char → List Char × List Char
  | [] => ([], [])
  | c :: cs =>
    if isWordChar c || (c == '\t' && (cs.dropWhile (· == '\t')).head?.any isWordStart) then
      let (w, r) := splitWord cs
      (c :: w, r)
    else ([], c :: cs)

/-- A word. A date may be followed by a blank and a time. -/
def word (cs : List Char) : List Char × List Char :=
  match splitWord cs with
  | (w, ' ' :: c :: r) =>
    if Scalar.date w == some [] && Text.isDigit c then
      let (time, r) := splitWord (c :: r)
      (w ++ ' ' :: time, r)
    else (w, ' ' :: c :: r)
  | r => r

def plainValue (cs : List Char) : Option (Toml × List Char) :=
  match Quoted.string? cs with
  | some r => r.map fun (s, r) => (.string (String.ofList s), r)
  | none =>
    let (w, r) := word cs
    (Scalar.ofWord? w).map (·, r)

mutual

def value (fuel depth : Nat) (cs : List Char) : Option (Toml × List Char) :=
  match fuel with
  | 0 => none
  | fuel + 1 =>
    match cs with
    | '[' :: r => do
      if depth = 0 then none
      let (items, r) ← arrayRest fuel (depth - 1) r
      return (.array items, r)
    | '\x7b' :: r => do
      if depth = 0 then none
      let (entries, r) ← tableRest fuel (depth - 1) .empty r
      return (.table entries.close, r)
    | cs => plainValue cs

/-- The rest of an array, from its start or after a comma. -/
def arrayRest (fuel depth : Nat) (cs : List Char) : Option (List Toml × List Char) :=
  match fuel with
  | 0 => none
  | fuel + 1 => do
    match ← skipLines fuel cs with
    | ']' :: r => some ([], r)
    | r =>
      let (v, r) ← value fuel depth r
      match ← skipLines fuel r with
      | ',' :: r =>
        let (vs, r) ← arrayRest fuel depth r
        return (v :: vs, r)
      | ']' :: r => return ([v], r)
      | _ => none

/-- The rest of an inline table, from its start or after a comma. -/
def tableRest (fuel depth : Nat) (entries : Outline) (cs : List Char) :
    Option (Outline × List Char) :=
  match fuel with
  | 0 => none
  | fuel + 1 => do
    match ← skipLines fuel cs with
    | '\x7d' :: r => some (entries, r)
    | r =>
      let ((path, key), r) ← dottedKey r
      let '=' :: r ← skipLines fuel r | none
      let (v, r) ← value fuel depth (← skipLines fuel r)
      let entries ← entries.setDotted key v path
      match ← skipLines fuel r with
      | ',' :: r => tableRest fuel depth entries r
      | '\x7d' :: r => return (entries, r)
      | _ => none

end

/-! Statements -/

/-- The tables made so far, and the path of the one that is open. -/
structure State where
  outline : Outline := .empty
  path : List String := []

def openHeader (s : State) (path : List String) (key : String)
    (f : String → Outline → Option Outline) : Option State :=
  (s.outline.changeAt (f key) path).map fun outline => { outline, path := path ++ [key] }

/-- One statement and the rest of its line. -/
def statement (fuel : Nat) (s : State) (cs : List Char) : Option (State × List Char) :=
  match skipBlanks cs with
  | '[' :: '[' :: r => do
    let ((path, key), r) ← dottedKey r
    let ']' :: ']' :: r := r | none
    return (← openHeader s path key Outline.openElement, ← endLine r)
  | '[' :: r => do
    let ((path, key), r) ← dottedKey r
    let ']' :: r := r | none
    return (← openHeader s path key Outline.openTable, ← endLine r)
  | r => do
    let ((path, key), r) ← dottedKey r
    let '=' :: r := r | none
    let (v, r) ← value fuel maxDepth (skipBlanks r)
    let outline ← s.outline.changeAt (Outline.setDotted key v path) s.path
    return ({ s with outline }, ← endLine r)

def statements (fuel : Nat) (s : State) (cs : List Char) : Option State :=
  match fuel with
  | 0 => none
  | fuel + 1 => do
    let r ← skipLines fuel cs
    if r.isEmpty then return s
    let (s, r) ← statement fuel s r
    statements fuel s r

def skipByteOrderMark : List Char → List Char
  | '\ufeff' :: r => r
  | cs => cs

end Document

/-- The table that a document spells. At most two steps meet at one character, so twice the length
of the text is fuel enough. -/
def parse? (text : String) : Option (FieldMap Toml) :=
  let cs := Document.skipByteOrderMark text.toList
  (Document.statements (2 * cs.length + 2) {} cs).map (·.outline.close)

end EntityQuery.Toml
