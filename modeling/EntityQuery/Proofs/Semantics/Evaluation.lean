import EntityQuery.Sql.Query

/-!
What a query says about a database. Conditions have three truth values, and only what is true is
kept: a combination of rows, one for each table of the query, is kept if every condition of a join
and every predicate is true of it. Order and page are left aside.
-/

namespace EntityQuery.Sql

/-- The cells of a row by the names of their columns; a cell that is null holds nothing. -/
abbrev Row (D : Type) := String → Option D

/-- The rows of each table, by schema and name. -/
abbrev Database (D : Type) := Option String → String → List (Row D)

/-- What literals and comparisons mean. Comparisons have three truth values, nothing standing for
unknown, and are never true of null. -/
structure Interpretation (D : Type) where
  literal : Literal → Option D
  compare : Comparison → Option D → Option D → Option Bool
  compare_null_left : ∀ op x, compare op none x ≠ some true
  compare_null_right : ∀ op x, compare op x none ≠ some true
  /-- One is not zero. -/
  one_ne_zero : compare .eq (literal (.int 1)) (literal (.int 0)) ≠ some true

/-! Literals that mean themselves -/

/-- Whether a text is like a pattern, in which a percent sign stands for any text and an underscore
for any one character. -/
def isLike : List Char → List Char → Bool
  | [], cs => cs.isEmpty
  | '%' :: ps, cs => (List.range (cs.length + 1)).any fun n => isLike ps (cs.drop n)
  | '_' :: ps, _ :: cs => isLike ps cs
  | p :: ps, c :: cs => p == c && isLike ps cs
  | _ :: _, [] => false

/-- How two whole numbers, two texts or two truth values are ordered. -/
def Literal.order? : Literal → Literal → Option Ordering
  | .int m, .int n => some (compare m.toInt n.toInt)
  | .string s, .string t => some (compare s t)
  | .bool b, .bool c => some (compare b c)
  | _, _ => none

def Literal.compare? (op : Comparison) (l r : Literal) : Option Bool :=
  match op, l, r with
  | .eq, l, r => (l.order? r).map (·.isEq)
  | .ne, l, r => (l.order? r).map (·.isNe)
  | .lt, l, r => (l.order? r).map (·.isLT)
  | .gt, l, r => (l.order? r).map (·.isGT)
  | .lte, l, r => (l.order? r).map (·.isLE)
  | .gte, l, r => (l.order? r).map (·.isGE)
  | .like, .string s, .string p => some (isLike p.toList s.toList)
  | .ilike, .string s, .string p =>
    some (isLike (p.toList.map Char.toLower) (s.toList.map Char.toLower))
  | .like, _, _ | .ilike, _, _ => none

/-- Cells hold literals. What is not ordered, numbers with a fraction among it, is not known to
compare. -/
def Interpretation.plain : Interpretation Literal where
  literal
    | .null => none
    | l => some l
  compare op x y := do Literal.compare? op (← x) (← y)
  compare_null_left op x := by simp
  compare_null_right op x := by cases x <;> simp
  one_ne_zero := by decide

/-! Expressions -/

/-- The row that a column is taken from, by the alias of its table if it names one. -/
abbrev Env (D : Type) := Option String → Row D

/-- True if one is true, and false only if all are. -/
def anyOf (ts : List (Option Bool)) : Option Bool :=
  if some true ∈ ts then some true else if none ∈ ts then none else some false

theorem anyOf_eq_true_iff {ts : List (Option Bool)} : anyOf ts = some true ↔ some true ∈ ts := by
  unfold anyOf
  split
  · rename_i h
    simp [h]
  · rename_i h
    split <;> simp [h]

namespace Expr

variable {D : Type} (I : Interpretation D) (env : Env D)

/-- Only columns and literals have a value. -/
def cell : Expr → Option D
  | .column t c => env t c
  | .literal l => I.literal l
  | _ => none

/-- Whether a condition is true, false or unknown. -/
def truth : Expr → Option Bool
  | .compare op l r => I.compare op (l.cell I env) (r.cell I env)
  | .inList e vs => anyOf (vs.map fun v => I.compare .eq (e.cell I env) (v.cell I env))
  | .isNull e negated => some ((e.cell I env).isNone != negated)
  | _ => none

def holds (e : Expr) : Bool := e.truth I env == some true

theorem holds_iff {e : Expr} : e.holds I env = true ↔ e.truth I env = some true := by
  simp [holds]

end Expr

/-! Combinations of rows -/

/-- Every way to choose one member of each list, the first list varying slowest. -/
def choices {α : Type} : List (List α) → List (List α)
  | [] => [[]]
  | xs :: rest => xs.flatMap fun x => (choices rest).map (x :: ·)

/-- A row for each alias. -/
abbrev Combination (D : Type) := List (String × Row D)

/-- An alias that the combination does not have has only null cells. -/
def Combination.env {D : Type} (m : Combination D) : Env D
  | some asName => (m.lookup asName).getD fun _ => none
  | none => fun _ => none

variable {D : Type}

/-- The rows of a table, each under the name that the query has for it. -/
def Table.candidates (db : Database D) (t : Table) : List (String × Row D) :=
  (db t.schema t.name).map fun r => (t.referenceName, r)

namespace Query

/-- Whether every condition of a join and every predicate is true of a combination. -/
def keeps (q : Query) (I : Interpretation D) (m : Combination D) : Bool :=
  q.joins.all (fun j => j.condition.holds I m.env) && q.predicates.all (·.holds I m.env)

/-- The tables of a query, the source first. -/
def tables (q : Query) : List Table := q.source.toList ++ q.joins.map (·.table)

/-- The combinations that are kept, of all that there are. -/
def kept (q : Query) (I : Interpretation D) (db : Database D) : List (Combination D) :=
  (choices (q.tables.map (Table.candidates db))).filter (q.keeps I)

/-- Those with this row of the source. -/
def keptFrom (q : Query) (I : Interpretation D) (db : Database D) (source : String × Row D) :
    List (Combination D) :=
  ((choices (q.joins.map fun j => j.table.candidates db)).map (source :: ·)).filter (q.keeps I)

theorem kept_eq_flatMap {q : Query} {t : Table} (h : q.source = some t) (I : Interpretation D)
    (db : Database D) : q.kept I db = (t.candidates db).flatMap (q.keptFrom I db) := by
  simp only [kept, tables, h, Option.toList_some, List.singleton_append, List.map_cons, choices,
    List.filter_flatMap, List.map_map, Function.comp_def]
  rfl

end Query

end EntityQuery.Sql
