import EntityQuery.Compile.Draft

/-!
A filter and an ordering of one entity, read together: the fields that either of them names, and
below each field the filter and the ordering of the row that it points at. The tree of visits is
this reading, unfolded. Scopes shrink on the way down, so what holds of a scope whenever it holds of
those below it holds of every scope.
-/

namespace EntityQuery

/-- A reference to an instance that was never stored is no stored key. -/
def Value.isStored : Value → Bool
  | .entity ⟨_, none⟩ => false
  | _ => true

theorem Value.isStored_eq (v : Value) : v.isStored = !v.isUnsaved := by
  rcases v with - | - | - | - | - | ⟨entity, - | id⟩ | - <;> rfl

theorem Value.filter_isStored (vs : List Value) :
    vs.filter isStored = vs.filter (!·.isUnsaved) :=
  List.filter_congr fun v _ => v.isStored_eq

/-- The filter on the row that a foreign key points at. -/
def Clause.filterBelow : Clause → Filter
  | .nested f => f
  | _ => .empty

/-- The ordering of the row that a foreign key points at. -/
def SortClause.orderBelow : Option SortClause → SortOrder
  | some (.nested o) => o
  | _ => .empty

namespace Compile

structure Scope where
  filter : Filter
  order : SortOrder

/-- A field that a scope names, and what is asked of it. -/
structure Named where
  field : String
  clause : Clause
  order : Option SortClause

def Named.below (n : Named) : Scope := ⟨n.clause.filterBelow, SortClause.orderBelow n.order⟩

def Named.toVisit (n : Named) : Visit :=
  .field n.field n.clause n.order (Visit.ofScope n.below.filter n.below.order)

/-- The clause is a nested filter, or the order a nested ordering. -/
def Named.GoesOn (n : Named) : Prop :=
  (∃ f, n.clause = .nested f) ∨ ∃ o, n.order = some (.nested o)

/-- The key column and the related entity, if the field is a foreign key with a nested filter or a
nested ordering. -/
def Named.hop? (schema : Schema) (e : Entity) (n : Named) : Option (String × Entity) := do
  let c ← e.columns.find? (·.field == n.field)
  let related ← c.references.bind schema
  match n.clause, n.order with
  | .nested _, _ | _, some (.nested _) => some (c.column, related)
  | _, _ => none

/-- The compiler goes on just there. -/
theorem goesOn_iff {n : Named} : goesOn n.clause n.order = true ↔ n.GoesOn := by
  obtain ⟨field, clause, order⟩ := n
  rw [goesOn, Bool.or_eq_true, Named.GoesOn]
  refine or_congr ?_ ?_
  · cases clause <;> simp [Clause.isNested]
  · rcases order with - | d | o <;> simp [SortClause.isNested]

theorem Named.hop?_eq (schema : Schema) (e : Entity) (n : Named) :
    n.hop? schema e = (do
      let c ← e.column? n.field
      let related ← c.references.bind schema
      if goesOn n.clause n.order then some (c.column, related) else none) := by
  obtain ⟨field, clause, order⟩ := n
  cases clause <;> rcases order with - | d | o <;> rfl

namespace Scope

/-- The fields of the ordering in their order, then the other fields of the filter in theirs. -/
def named (s : Scope) : List Named :=
  s.order.entries.map (fun e => ⟨e.1, (s.filter.get? e.1).getD .absent, some e.2⟩) ++
    (s.filter.entries.filter fun e => e.1 ∉ s.order.fields).map fun e => ⟨e.1, e.2, none⟩

end Scope

/-! The tree of visits -/

namespace Visit

theorem ofClauses_eq_map (es : List (String × Clause)) :
    ofClauses es = es.map fun e => .field e.1 e.2 none (ofClause e.2) := by
  induction es with
  | nil => rfl
  | cons e es ih => rw [ofClauses, ih, List.map_cons]

theorem ofSortClauses_eq_map (clauses : List (String × Clause))
    (os : List (String × SortClause)) :
    ofSortClauses clauses os = os.map fun o =>
      .field o.1 (clauseOf o.1 clauses) (some o.2) (ofSortClause (clauseOf o.1 clauses) o.2) := by
  induction os with
  | nil => rfl
  | cons o os ih => rw [ofSortClauses, ih, List.map_cons]

theorem remaining_nil (es : List (String × Clause)) : remaining [] es = es := by
  simp [remaining]

theorem ofClause_eq (c : Clause) : ofClause c = ofScope c.filterBelow .empty := by
  have empty (f : Filter) : ofScope f .empty = ofClauses f.entries := by
    simp [ofScope, FieldMap.empty, FieldMap.fields, ofSortClauses, remaining_nil]
  rw [empty]
  cases c with
  | nested f => rw [ofClause]; rfl
  | _ => simp [ofClause, Clause.filterBelow, FieldMap.empty, ofClauses]

theorem ofSortClause_eq (c : Clause) (o : SortClause) :
    ofSortClause c o = ofScope c.filterBelow (SortClause.orderBelow (some o)) := by
  cases o with
  | direction d => rw [ofSortClause, ofClause_eq]; rfl
  | nested o =>
    have hc : nestedClauses c = c.filterBelow.entries := by cases c <;> rfl
    rw [ofSortClause, hc]
    rfl

/-- A scope is visited field by field, each with the visits of the scope below it. -/
theorem ofScope_eq_map (s : Scope) :
    ofScope s.filter s.order = s.named.map Named.toVisit := by
  rw [ofScope, ofSortClauses_eq_map, ofClauses_eq_map, Scope.named, List.map_append, List.map_map,
    List.map_map]
  congr 1
  · refine List.map_congr_left fun o _ => ?_
    rw [ofSortClause_eq]
    rfl
  · simp only [remaining, List.contains_eq_mem, decide_not]
    refine List.map_congr_left fun e _ => ?_
    rw [ofClause_eq]
    rfl

end Visit

/-! Scopes shrink -/

theorem sizeOf_empty {α : Type} [SizeOf α] : sizeOf (FieldMap.empty : FieldMap α) = 2 := rfl

theorem sizeOf_add_two_lt {α : Type} [SizeOf α] {m : FieldMap α} {e : String × α}
    (h : e ∈ m.entries) : sizeOf e.2 + 2 < sizeOf m := by
  obtain ⟨es⟩ := m
  obtain ⟨f, a⟩ := e
  have he := List.sizeOf_lt_of_mem h
  simp only [Prod.mk.sizeOf_spec, FieldMap.mk.sizeOf_spec] at *
  omega

theorem two_le_sizeOf {α : Type} [SizeOf α] (m : FieldMap α) : 2 ≤ sizeOf m := by
  obtain ⟨es⟩ := m
  have hes : 1 ≤ sizeOf es := by
    cases es with
    | nil => exact Nat.le_refl 1
    | cons e es =>
      rw [List.cons.sizeOf_spec]
      omega
  simp only [FieldMap.mk.sizeOf_spec]
  omega

theorem sizeOf_filterBelow_le (c : Clause) : sizeOf c.filterBelow ≤ sizeOf c + 1 := by
  cases c with
  | nested f =>
    simp only [Clause.filterBelow, Clause.nested.sizeOf_spec]
    omega
  | compare op v =>
    simp only [Clause.filterBelow, sizeOf_empty, Clause.compare.sizeOf_spec]
    omega
  | _ => simp [Clause.filterBelow, sizeOf_empty]

theorem sizeOf_orderBelow_le (o : SortClause) :
    sizeOf (SortClause.orderBelow (some o)) ≤ sizeOf o + 1 := by
  cases o with
  | direction d => simp [SortClause.orderBelow, sizeOf_empty]
  | nested o =>
    simp only [SortClause.orderBelow, SortClause.nested.sizeOf_spec]
    omega

namespace Scope

theorem sizeOf_below_lt {s : Scope} {n : Named} (h : n ∈ s.named) :
    sizeOf n.below < sizeOf s := by
  simp only [named, List.mem_append, List.mem_map, List.mem_filter] at h
  rcases h with ⟨e, he, rfl⟩ | ⟨e, ⟨he, -⟩, rfl⟩
  · have ho := sizeOf_add_two_lt he
    have hb := sizeOf_orderBelow_le e.2
    have hf : sizeOf ((s.filter.get? e.1).getD .absent).filterBelow ≤ sizeOf s.filter := by
      cases hc : s.filter.get? e.1 with
      | none => exact two_le_sizeOf s.filter
      | some c =>
        have hm := sizeOf_add_two_lt (FieldMap.mem_of_get? hc)
        have hc := sizeOf_filterBelow_le c
        simp only [Option.getD_some] at *
        omega
    simp only [Named.below, Scope.mk.sizeOf_spec]
    cases s
    simp only [Scope.mk.sizeOf_spec] at *
    omega
  · have hf := sizeOf_add_two_lt he
    have hb := sizeOf_filterBelow_le e.2
    have ho := two_le_sizeOf s.order
    simp only [Named.below, SortClause.orderBelow, Scope.mk.sizeOf_spec, sizeOf_empty]
    cases s
    simp only [Scope.mk.sizeOf_spec] at *
    omega

/-- What passes from the scopes below to a scope holds of every scope. -/
theorem induction {P : Scope → Prop} (step : ∀ s, (∀ n ∈ s.named, P n.below) → P s)
    (s : Scope) : P s :=
  step s fun n hn =>
    have := sizeOf_below_lt hn
    induction step n.below
termination_by s

/-! Scopes that name each field once -/

/-- What a scope asks of a field, as its filter and its ordering have it. -/
def asks (s : Scope) (field : String) : Named :=
  ⟨field, (s.filter.get? field).getD .absent, s.order.get? field⟩

theorem map_field_named (s : Scope) :
    s.named.map Named.field =
      s.order.fields ++ s.filter.fields.filter fun f => f ∉ s.order.fields := by
  simp [named, FieldMap.fields, List.filter_map, Function.comp_def]

variable {s : Scope}

theorem nodup_map_field_named (hf : s.filter.Distinct) (ho : s.order.Distinct) :
    (s.named.map Named.field).Nodup := by
  rw [map_field_named, List.nodup_append]
  refine ⟨ho, hf.filter _, fun x hx y hy heq => ?_⟩
  subst heq
  simp [hx] at hy

theorem eq_asks_of_mem_named (hf : s.filter.Distinct) (ho : s.order.Distinct) {n : Named}
    (hn : n ∈ s.named) : n = s.asks n.field := by
  rcases List.mem_append.1 hn with hn | hn
  · obtain ⟨⟨f, o⟩, he, rfl⟩ := List.mem_map.1 hn
    simp [asks, FieldMap.get?_of_mem ho he]
  · obtain ⟨⟨f, c⟩, he, rfl⟩ := List.mem_map.1 hn
    obtain ⟨hm, hnot⟩ := List.mem_filter.1 he
    have hnone : s.order.get? f = none := FieldMap.get?_eq_none_iff.2 (by simpa using hnot)
    simp [asks, FieldMap.get?_of_mem hf hm, hnone]

theorem asks_mem_named (hf : s.filter.Distinct) (ho : s.order.Distinct) {field : String}
    (h : field ∈ s.order.fields ∨ field ∈ s.filter.fields) : s.asks field ∈ s.named := by
  have hm : field ∈ s.named.map Named.field := by
    rw [map_field_named, List.mem_append, List.mem_filter]
    by_cases hx : field ∈ s.order.fields
    · exact .inl hx
    · exact .inr ⟨h.resolve_left hx, by simpa using hx⟩
  obtain ⟨n, hn, rfl⟩ := List.mem_map.1 hm
  rwa [← eq_asks_of_mem_named hf ho hn]

/-- No field stands twice in the filter or the ordering, or in those below. -/
inductive Distinct : Scope → Prop
  | intro {s : Scope} (hf : s.filter.Distinct) (ho : s.order.Distinct)
    (hb : ∀ n ∈ s.named, n.below.Distinct) : Distinct s

theorem Distinct.empty : Distinct ⟨.empty, .empty⟩ :=
  .intro FieldMap.distinct_empty FieldMap.distinct_empty (by simp [named, FieldMap.empty])

end Scope

end Compile

end EntityQuery
