import EntityQuery.FieldMap
import EntityQuery.Text.Alphabetic
import EntityQuery.Text.Case

/-!
Aliases for tables: the initials of the table's name and a number. Tables with the same initials are
numbered from zero on, in the order in which they ask, so no alias is given twice.
-/

namespace EntityQuery.Compile

/-- The first letter of each word, where underscores part the words. `seen` tells whether the word
has shown its first letter already. -/
def initials (seen : Bool) : List Char → List Char
  | [] => []
  | c :: cs =>
    if c = '_' then initials false cs
    else if !seen && Text.isAlphabetic c then c :: initials true cs
    else initials seen cs

/-- The initials in lower case, or `t` for a name without letters. -/
def abbreviation (table : String) : String :=
  let cs := (initials false table.toList).flatMap Text.lowerChar
  if cs.isEmpty then "t" else String.ofList cs

/-- The aliases given out so far: each abbreviation with the number that comes next. -/
structure Aliases where
  next : FieldMap Nat := .empty

namespace Aliases

/-- How many aliases with this abbreviation have been given out. -/
def counter (a : Aliases) (abbr : String) : Nat := (a.next.get? abbr).getD 0

/-- A new alias for a table. -/
def allocate (a : Aliases) (table : String) : String × Aliases :=
  let abbr := abbreviation table
  let number := a.counter abbr
  (abbr ++ toString number, ⟨a.next.insert abbr (number + 1)⟩)

end Aliases

end EntityQuery.Compile
