import EntityQuery.Proofs.Compile.Scope
import EntityQuery.Proofs.Insertions

/-!
The fields of a filter and an ordering, visited together. The names are those of the ordering and
then those of the filter, each where it first occurs; so no field is compiled twice and none is left
out. A visit looks its clause and its order up by the name of its field, and goes on below with what
is nested in them.
-/

namespace EntityQuery

/-! Filters and orderings that may be missing -/

/-- The fields of a map that may be missing. -/
def FieldMap.fieldsOf {α : Type} (m : Option (FieldMap α)) : List String := m.elim [] fields

theorem FieldMap.fieldsOf_eq {α : Type} (m : Option (FieldMap α)) :
    fieldsOf m = (m.getD .empty).fields := by
  cases m <;> rfl

theorem FieldMap.get?_getD_empty {α : Type} (m : Option (FieldMap α)) (field : String) :
    (m.getD .empty).get? field = m.bind (·.get? field) := by
  cases m <;> rfl

def Clause.nested? : Clause → Option Filter
  | .nested f => some f
  | _ => none

theorem Clause.filterBelow_eq (c : Clause) : c.filterBelow = c.nested?.getD .empty := by
  cases c <;> rfl

def SortClause.nested? : SortClause → Option SortOrder
  | .nested o => some o
  | .direction _ => none

theorem SortClause.orderBelow_eq (o : Option SortClause) :
    orderBelow o = (o.bind nested?).getD .empty := by
  rcases o with - | - | - <;> rfl

/-! Visits -/

namespace Compile

open FieldMap (fieldsOf fieldsOf_eq ofList)

namespace Visit

/-- The visits of a filter and an ordering, either of which may be missing. -/
def ofParts (filter : Option Filter) (order : Option SortOrder) : List Visit :=
  ofScope (filter.getD .empty) (order.getD .empty)

/-- The visit of a field, by what the filter and the ordering have for its name. Below it are the
visits of the nested filter and the nested ordering, either of which may be missing. -/
def ofField (filter : Option Filter) (order : Option SortOrder) (field : String) : Visit :=
  let clause := (filter.bind (·.get? field)).getD .absent
  let sort := order.bind (·.get? field)
  .field field clause sort (ofParts clause.nested? (sort.bind SortClause.nested?))

theorem toVisit_asks (filter : Option Filter) (order : Option SortOrder) (field : String) :
    (Scope.asks ⟨filter.getD .empty, order.getD .empty⟩ field).toVisit =
      ofField filter order field := by
  simp only [Scope.asks, Named.toVisit, Named.below, ofField, ofParts, FieldMap.get?_getD_empty,
    Clause.filterBelow_eq, SortClause.orderBelow_eq]

end Visit

/-- The visits are one for each field of the filter or the ordering: the fields of the ordering in
their order, and after them the others of the filter in theirs. -/
structure VisitOnce (filter : Option Filter) (order : Option SortOrder) (visits : List Visit) :
    Prop where
  names_eq : visits.map Visit.name =
    fieldsOf order ++ (fieldsOf filter).filter fun f => f ∉ fieldsOf order
  firsts : ListsFirsts (fieldsOf order ++ fieldsOf filter) (visits.map Visit.name)
  nodup : (visits.map Visit.name).Nodup
  eq_ofField : ∀ v ∈ visits, v = Visit.ofField filter order v.name

theorem visitOnce_ofParts {filter : Option Filter} {order : Option SortOrder}
    (hf : (filter.getD .empty).Distinct) (ho : (order.getD .empty).Distinct) :
    VisitOnce filter order (Visit.ofParts filter order) := by
  have hnames : (Visit.ofParts filter order).map Visit.name =
      fieldsOf order ++ (fieldsOf filter).filter fun f => f ∉ fieldsOf order := by
    rw [Visit.ofParts, Visit.map_name_ofScope, fieldsOf_eq, fieldsOf_eq]
    simp only [List.contains_eq_mem, decide_not]
  have hfirsts : ListsFirsts (fieldsOf order ++ fieldsOf filter)
      ((Visit.ofParts filter order).map Visit.name) := by
    rw [hnames, fieldsOf_eq, fieldsOf_eq, ← firsts_append ho hf]
    exact listsFirsts_firsts _
  refine ⟨hnames, hfirsts, hfirsts.nodup, ?_⟩
  intro v hv
  rw [Visit.ofParts, Visit.ofScope_eq_map ⟨filter.getD .empty, order.getD .empty⟩] at hv
  obtain ⟨n, hn, rfl⟩ := List.mem_map.1 hv
  rw [Scope.eq_asks_of_mem_named hf ho hn, Visit.toVisit_asks]
  rfl

/-- Every map made by insertions tells of them each field once, by its first and its last insertion.
A filter and an ordering made so, either of which may be missing, are visited together, each field
of either once. -/
theorem tells_visitOnce :
    (∀ (α : Type) (insertions : List (String × α)), (ofList insertions).Tells insertions) ∧
    ∀ (clauses : Option (List (String × Clause))) (sorts : Option (List (String × SortClause))),
      VisitOnce (clauses.map ofList) (sorts.map ofList)
        (Visit.ofParts (clauses.map ofList) (sorts.map ofList)) := by
  have distinct (α : Type) (insertions : Option (List (String × α))) :
      ((insertions.map ofList).getD .empty).Distinct := by
    cases insertions with
    | none => exact FieldMap.distinct_empty
    | some insertions => exact FieldMap.distinct_ofList insertions
  refine ⟨fun α => FieldMap.tells_ofList, ?_⟩
  intro clauses sorts
  exact visitOnce_ofParts (distinct Clause clauses) (distinct SortClause sorts)

end Compile

end EntityQuery
