import EntityQuery.Spec.Filter
import EntityQuery.Spec.SortOrder

/-! What a caller asks for: which rows, in which order, and which page of them. -/

namespace EntityQuery

structure Spec where
  filter : Filter := .empty
  order : SortOrder := .empty
  limit : Option UInt64 := none
  offset : Option UInt64 := none

end EntityQuery
