import EntityQuery.Spec.Basic

/-!
The order in which fields are compiled. A filter and an ordering of one entity are read together as
a tree of visits, one for each field that either names: first the fields of the ordering, so that
earlier ones keep their weight, then the fields that only the filter names. Below a field stand the
visits of the row that it points at, as far as its clause and its order go on there.
-/

namespace EntityQuery.Compile

inductive Visit where
  | field (name : String) (clause : Clause) (order : Option SortClause) (below : List Visit)

namespace Visit

def name : Visit → String
  | .field n _ _ _ => n

mutual

/-- The visits below a clause, where no ordering goes on. -/
def ofClause : Clause → List Visit
  | .nested ⟨es⟩ => ofClauses es
  | _ => []

def ofClauses : List (String × Clause) → List Visit
  | [] => []
  | (f, c) :: es => .field f c none (ofClause c) :: ofClauses es

end

/-- The entries of a nested filter. -/
def nestedClauses : Clause → List (String × Clause)
  | .nested f => f.entries
  | _ => []

/-- The clause of a field. Of a field that the filter does not name, nothing is asked. -/
def clauseOf (field : String) (es : List (String × Clause)) : Clause :=
  (es.lookup field).getD .absent

/-- The entries of fields that are not among `fields`. -/
def remaining (fields : List String) (es : List (String × Clause)) : List (String × Clause) :=
  es.filter fun e => !fields.contains e.1

mutual

/-- The visits below a field with this clause and this order. -/
def ofSortClause (clause : Clause) : SortClause → List Visit
  | .direction _ => ofClause clause
  | .nested ⟨os⟩ =>
    ofSortClauses (nestedClauses clause) os ++
      ofClauses (remaining (os.map (·.1)) (nestedClauses clause))

/-- The visits of the fields of an ordering, each with its clause in the filter. -/
def ofSortClauses (clauses : List (String × Clause)) : List (String × SortClause) → List Visit
  | [] => []
  | (f, o) :: os =>
    .field f (clauseOf f clauses) (some o) (ofSortClause (clauseOf f clauses) o) ::
      ofSortClauses clauses os

end

def ofScope (filter : Filter) (ordering : SortOrder) : List Visit :=
  ofSortClauses filter.entries ordering.entries ++
    ofClauses (remaining ordering.fields filter.entries)

theorem map_name_ofClauses (es : List (String × Clause)) :
    (ofClauses es).map name = es.map (·.1) := by
  induction es with
  | nil => rfl
  | cons e es ih => simp [ofClauses, name, ih]

theorem map_name_ofSortClauses (clauses : List (String × Clause))
    (os : List (String × SortClause)) :
    (ofSortClauses clauses os).map name = os.map (·.1) := by
  induction os with
  | nil => rfl
  | cons o os ih => simp [ofSortClauses, name, ih]

/-- Each field once: those of the ordering, then the others of the filter. -/
theorem map_name_ofScope (filter : Filter) (ordering : SortOrder) :
    (ofScope filter ordering).map name =
      ordering.fields ++ filter.fields.filter fun f => !ordering.fields.contains f := by
  simp [ofScope, map_name_ofClauses, map_name_ofSortClauses, remaining, FieldMap.fields,
    List.filter_map, Function.comp_def]

end Visit

end EntityQuery.Compile
