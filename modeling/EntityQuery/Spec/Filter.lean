import EntityQuery.FieldMap
import EntityQuery.Spec.Operator
import EntityQuery.Value

/-!
Filters: for each field, the clause that a row must meet. Which clauses a column admits depends on
the kind of the column and is decided when the filter is compiled.
-/

namespace EntityQuery

inductive Clause where
  /-- The field is named but nothing is asked of it. -/
  | absent
  | null
  /-- A bare scalar or reference. -/
  | value (v : Value)
  | list (vs : List Value)
  | compare (op : Operator) (v : Value)
  /-- The identifier, or one of the identifiers, of the row that a foreign key points at. -/
  | id (v : Value)
  /-- A filter on the row that a foreign key points at. -/
  | nested (filter : FieldMap Clause)
  /-- A comparison by an operator that does not exist. -/
  | unrecognized (name : String)

abbrev Filter := FieldMap Clause

def Clause.isNested : Clause → Bool
  | .nested _ => true
  | _ => false

/-- A bare null and a bare list take the forms that are kept for them. -/
def Clause.normalized : Clause → Clause
  | .value .null => .null
  | .value (.list vs) => .list vs
  | c => c

end EntityQuery
