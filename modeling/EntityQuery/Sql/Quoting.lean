import EntityQuery.Sql.Dialect

/-!
Names and strings as the dialects quote them. Whatever ends a quoted text is written twice inside
it, so the text ends where it should.
-/

namespace EntityQuery.Sql.Dialect

/-- The characters that open and close a quoted name. -/
def nameDelimiters : Dialect → Char × Char
  | .postgres | .duckdb => ('"', '"')
  | .mysql => ('\x60', '\x60')
  | .tsql => ('[', ']')

/-- Each character for which `special` holds is written twice. -/
def doubled (special : Char → Bool) (s : List Char) : List Char :=
  s.flatMap fun c => if special c then [c, c] else [c]

/-- A name in its delimiters, the closing one doubled inside. -/
def quoteName (d : Dialect) (s : String) : String :=
  let (opening, closing) := d.nameDelimiters
  String.ofList (opening :: (doubled (· == closing) s.toList ++ [closing]))

/-- A character that a string literal of the dialect writes twice. -/
def doubledInString (d : Dialect) (c : Char) : Bool :=
  c == '\'' || (d == .mysql && c == '\\')

def isAscii (s : String) : Bool := s.toList.all (·.toNat < 128)

/-- A string in single quotes, with `N` before it if it is national text. -/
def stringLiteral (d : Dialect) (national : Bool) (s : String) : String :=
  let body := '\'' :: (doubled d.doubledInString s.toList ++ ['\''])
  String.ofList (if national then 'N' :: body else body)

/-- The one dialect with a literal of its own for national text uses it beyond ASCII. -/
def quoteString (d : Dialect) (s : String) : String :=
  d.stringLiteral (d == .tsql && !isAscii s) s

/-- National text, in single quotes whatever it holds. -/
def quoteNational (s : String) : String := stringLiteral .tsql true s

end EntityQuery.Sql.Dialect
