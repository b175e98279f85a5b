import EntityQuery.Direction
import EntityQuery.FieldMap

/-!
Orderings: the fields to sort by, the first one weighing most. A foreign key is sorted by itself or
by fields of the row that it points at.
-/

namespace EntityQuery

inductive SortClause where
  | direction (d : Direction)
  | nested (ordering : FieldMap SortClause)

def SortClause.isNested : SortClause → Bool
  | .nested _ => true
  | .direction _ => false

abbrev SortOrder := FieldMap SortClause

end EntityQuery
