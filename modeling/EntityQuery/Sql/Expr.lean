import EntityQuery.Decimal.Binary64

/-!
Expressions of a query: columns, literals, comparisons, calls, membership and null tests, and the
predicate that no row meets.
-/

namespace EntityQuery.Sql

open EntityQuery.Decimal

inductive Literal where
  | int (n : Int64)
  | float (x : Binary64)
  | string (s : String)
  | bool (b : Bool)
  | null
deriving DecidableEq

inductive Comparison where
  | eq
  | ne
  | lt
  | gt
  | lte
  | gte
  | like
  | ilike
deriving DecidableEq

inductive Expr where
  | column (table : Option String) (name : String)
  | literal (l : Literal)
  | compare (op : Comparison) (left right : Expr)
  | call (function : String) (args : List Expr)
  | inList (e : Expr) (values : List Expr)
  | isNull (e : Expr) (negated : Bool)
  | star (table : Option String)

namespace Expr

instance : Coe Literal Expr := ⟨.literal⟩

/-- A predicate that no row meets, in a form that every dialect has. -/
def never : Expr := .compare .eq (.literal (.int 1)) (.literal (.int 0))

def isNever : Expr → Bool
  | .compare .eq (.literal (.int a)) (.literal (.int b)) => a == 1 && b == 0
  | _ => false

theorem isNever_iff {e : Expr} : e.isNever = true ↔ e = never := by
  constructor
  · intro h
    unfold isNever at h
    split at h
    · simp only [Bool.and_eq_true, beq_iff_eq] at h
      rw [h.1, h.2, never]
    · simp at h
  · rintro rfl
    decide

end Expr

end EntityQuery.Sql
