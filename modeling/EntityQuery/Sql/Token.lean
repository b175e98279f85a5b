import EntityQuery.Decimal.Notation
import EntityQuery.Sql.Quoting
import EntityQuery.Text.Case

/-!
The tokens of a statement and their text in each dialect. A statement is a list of tokens, blanks
and line breaks among them, so its text is the texts of its tokens in turn. Only a number that is
not finite has no text.
-/

namespace EntityQuery.Sql

open EntityQuery.Decimal

inductive Token where
  | select | from | where | and | as | on | join | inner | orderBy | asc | desc
  | limit | offset | fetch | next | rows | only
  | inList | like | ilike | isNull | isNotNull
  | comma | dot | star | openParen | closeParen
  | eq | ne | lt | gt | lte | gte
  | space | newline
  | indent (depth : Nat)
  | ident (name : String)
  | qualified (schema : Option String) (name : String)
  | int (n : Int64)
  | count (n : UInt64)
  | float (x : Binary64)
  | string (s : String)
  | bool (b : Bool)
  | null
  | function (name : String)
deriving DecidableEq

/-- Why a statement has no text. -/
inductive RenderError where
  | notANumber
  | infinite
deriving DecidableEq

def RenderError.message : RenderError → String
  | .notANumber => "Cannot serialize NaN to SQL"
  | .infinite => "Cannot serialize Infinity to SQL"

/-- Numbers are written shortest, with a point, and with an exponent only when they are very large
or very small. -/
def numberLayout : Layout where
  tie := .even
  positional := isModeratePoint
  keepsPoint := true
  signsExponent := false

namespace Token

/-- The text of a token; of a number, if it is finite. -/
def text (d : Dialect) : Token → String
  | .select => "SELECT"
  | .from => "FROM"
  | .where => "WHERE"
  | .and => "AND"
  | .as => "AS"
  | .on => "ON"
  | .join => "JOIN"
  | .inner => "INNER"
  | .orderBy => "ORDER BY"
  | .asc => "ASC"
  | .desc => "DESC"
  | .limit => "LIMIT"
  | .offset => "OFFSET"
  | .fetch => "FETCH"
  | .next => "NEXT"
  | .rows => "ROWS"
  | .only => "ONLY"
  | .inList => "IN"
  | .like => "LIKE"
  | .ilike => "ILIKE"
  | .isNull => "IS NULL"
  | .isNotNull => "IS NOT NULL"
  | .comma => ","
  | .dot => "."
  | .star => "*"
  | .openParen => "("
  | .closeParen => ")"
  | .eq => "="
  | .ne => "<>"
  | .lt => "<"
  | .gt => ">"
  | .lte => "<="
  | .gte => ">="
  | .space => " "
  | .newline => "\n"
  | .indent n => String.ofList (List.replicate (2 * n) ' ')
  | .ident name => d.quoteName name
  | .qualified none name => d.quoteName name
  | .qualified (some schema) name => d.quoteName schema ++ "." ++ d.quoteName name
  | .int n => toString n.toInt
  | .count n => toString n.toNat
  | .float x => numberLayout.write x
  | .string s => d.quoteString s
  | .bool b => d.truth b
  | .null => "NULL"
  | .function name => Text.upper name

/-- The reason why a token has no text, if there is one. -/
def failure? : Token → Option RenderError
  | .float x => if x.isFinite then none else if x.isNaN then some .notANumber else some .infinite
  | _ => none

end Token

/-- The text of a list of tokens, or the failure of the first one that has none. -/
def render (d : Dialect) (ts : List Token) : Except RenderError String :=
  match ts.findSome? Token.failure? with
  | some e => .error e
  | none => .ok (String.join (ts.map (Token.text d)))

theorem render_eq_ok_iff {d : Dialect} {ts : List Token} {s : String} :
    render d ts = .ok s ↔
      (∀ t ∈ ts, t.failure? = none) ∧ s = String.join (ts.map (Token.text d)) := by
  unfold render
  split
  · rename_i e h
    obtain ⟨t, ht, he⟩ := List.exists_of_findSome?_eq_some h
    simp only [reduceCtorEq, false_iff, not_and]
    exact fun hall => absurd (hall t ht) (by simp [he])
  · rename_i h
    simp only [List.findSome?_eq_none_iff] at h
    simp only [Except.ok.injEq, eq_comm (a := String.join _)]
    exact ⟨fun hs => ⟨h, hs⟩, fun hs => hs.2⟩

end EntityQuery.Sql
