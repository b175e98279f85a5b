import EntityQuery.Compile.Draft

/-!
The predicates that clauses stand for. The alias of the column's table changes nothing about them
but the column itself.
-/

namespace EntityQuery

open EntityQuery.Sql (Expr)

/-- A predicate on a column, the column taken from the table with this alias. -/
def Sql.Expr.qualify (asName : String) : Expr → Expr
  | .column none c => .column (some asName) c
  | .compare op l r => .compare op (l.qualify asName) r
  | .inList e vs => .inList (e.qualify asName) vs
  | .isNull e negated => .isNull (e.qualify asName) negated
  | e => e

namespace Compile

/-! Operators and scalars -/

section

variable {codec : Codec} {site : Site} {column : Expr} {op : Operator} {v : Value}

theorem compareValue_member (hc : comparison? op = none) (hn : v.isNull = false)
    (hl : v.isList = false) :
    compareValue codec site column op v =
      (do return membership column [← lower codec v]) := by
  cases v with
  | null => cases hn
  | list vs => cases hl
  | _ => simp only [compareValue, hc]

theorem compareValue_compare {comparison : Sql.Comparison} (hc : comparison? op = some comparison)
    (hn : v.isNull = false) (hl : v.isList = false) :
    compareValue codec site column op v =
      (do return Expr.compare comparison column (.literal (← lower codec v))) := by
  cases v with
  | null => cases hn
  | list vs => cases hl
  | _ => simp only [compareValue, hc]

end

/-! Predicates and aliases -/

section

variable (codec : Codec) (site : Site) (asName c : String)

theorem compareValue_columnOf (op : Operator) (v : Value) :
    compareValue codec site (columnOf asName c) op v =
      (compareValue codec site (.column none c) op v).map (Expr.qualify asName) := by
  have hn : compareNull site (columnOf asName c) op =
      (compareNull site (.column none c) op).map (Expr.qualify asName) := by
    cases op <;> rfl
  cases hc : comparison? op <;> cases v <;> simp only [compareValue, hc, hn]
  case none.list vs => cases lowerAll codec vs <;> rfl
  case some.list => rfl
  all_goals cases lower codec _ <;> rfl

theorem plainPredicate_columnOf (clause : Clause) :
    plainPredicate codec site (columnOf asName c) clause =
      (plainPredicate codec site (.column none c) clause).map
        (Option.map (Expr.qualify asName)) := by
  unfold plainPredicate
  cases clause.normalized with
  | list vs =>
    cases vs with
    | nil => rfl
    | cons v vs => simp only; cases lowerAll codec (v :: vs) <;> rfl
  | value v => simp only; cases lower codec v <;> rfl
  | compare op v =>
    simp only [compareValue_columnOf]
    cases compareValue codec site (.column none c) op v <;> rfl
  | _ => rfl

theorem matchAnyKey_columnOf (vs : List Value) :
    matchAnyKey codec (columnOf asName c) vs =
      (matchAnyKey codec (.column none c) vs).map (Expr.qualify asName) := by
  unfold matchAnyKey
  cases vs.filter (!·.isUnsaved) with
  | nil => rfl
  | cons k ks => simp only; cases lowerAll codec (k :: ks) <;> rfl

theorem matchKey_columnOf (v : Value) :
    matchKey codec (columnOf asName c) v =
      (matchKey codec (.column none c) v).map (Expr.qualify asName) := by
  cases v with
  | null => rfl
  | list vs => exact matchAnyKey_columnOf codec asName c vs
  | _ =>
    simp only [matchKey]
    split
    · rfl
    · cases lower codec _ <;> rfl

theorem excludeKey_columnOf (v : Value) :
    excludeKey codec site (columnOf asName c) v =
      (excludeKey codec site (.column none c) v).map (Expr.qualify asName) := by
  unfold excludeKey
  split
  · rfl
  · split
    · rfl
    · cases lower codec v <;> rfl

theorem keyPredicate_columnOf (clause : Clause) :
    keyPredicate codec site (columnOf asName c) clause =
      (keyPredicate codec site (.column none c) clause).map
        (Option.map (Expr.qualify asName)) := by
  cases clause with
  | value v | id v =>
    simp only [keyPredicate, matchKey_columnOf]
    cases matchKey codec (.column none c) v <;> rfl
  | list vs =>
    simp only [keyPredicate, matchAnyKey_columnOf]
    cases matchAnyKey codec (.column none c) vs <;> rfl
  | compare op v =>
    cases op with
    | eq | inList =>
      simp only [keyPredicate, matchKey_columnOf]
      cases matchKey codec (.column none c) v <;> rfl
    | ne =>
      simp only [keyPredicate, excludeKey_columnOf]
      cases excludeKey codec site (.column none c) v <;> rfl
    | _ => rfl
  | _ => rfl

end

end Compile

end EntityQuery
