import EntityQuery.Proofs.Compile.Bindings
import EntityQuery.Proofs.Compile.Paths
import Mathlib.Data.List.Forall2

/-!
The order of a query. An ordering is a tree whose leaves are directions; read depth first, in the
order in which the caller gave its fields, they are the order terms of the query, each at the alias
of the table that its path leads to. The filter has no say in them.
-/

namespace EntityQuery

open EntityQuery.Sql (OrderTerm Query)

/-- A field to sort by, and the foreign keys on the way to the row that it is taken from. -/
structure SortLeaf where
  path : List String
  field : String
  direction : Direction

/-- The same leaf, seen from the entity whose field leads to where its path starts. -/
def SortLeaf.under (field : String) (l : SortLeaf) : SortLeaf := { l with path := field :: l.path }

mutual

/-- The leaves of what a field is sorted by. -/
def SortClause.leaves (field : String) : SortClause → List SortLeaf
  | .direction d => [⟨[], field, d⟩]
  | .nested ⟨os⟩ => (SortClause.leavesAll os).map (SortLeaf.under field)

def SortClause.leavesAll : List (String × SortClause) → List SortLeaf
  | [] => []
  | (f, o) :: os => o.leaves f ++ SortClause.leavesAll os

end

/-- The leaves of an ordering, depth first. -/
def SortOrder.leaves (o : SortOrder) : List SortLeaf := SortClause.leavesAll o.entries

theorem SortOrder.leaves_eq_flatMap (o : SortOrder) :
    o.leaves = o.entries.flatMap fun e => e.2.leaves e.1 := by
  obtain ⟨es⟩ := o
  unfold leaves
  induction es with
  | nil => rfl
  | cons e es ih => rw [SortClause.leavesAll, ih, List.flatMap_cons]

namespace Compile

/-- The order term of a leaf: the column that the entity at the end of its path stores the field in,
at the alias of that path. -/
inductive LeafTerm (e : Entity) (hops : List Hop) (aliasAt : List String → String) :
    SortLeaf → OrderTerm → Prop
  | own {c : Column} (d : Direction) (hc : c ∈ e.columns) :
    LeafTerm e hops aliasAt ⟨[], c.field, d⟩ ⟨.column (some (aliasAt [])) c.column, d⟩
  | joined {hop : Hop} {c : Column} (d : Direction) (hh : hop ∈ hops)
    (hc : c ∈ hop.target.columns) :
    LeafTerm e hops aliasAt ⟨hop.path, c.field, d⟩ ⟨.column (some (aliasAt hop.path)) c.column, d⟩

/-! Leaves of scopes -/

/-- What a scope sorts by through one of its fields. -/
def Named.leaves (n : Named) : List SortLeaf := n.order.elim [] (SortClause.leaves n.field)

/-- Only the ordering of a scope has leaves. -/
theorem Scope.flatMap_leaves_named (s : Scope) : s.named.flatMap Named.leaves = s.order.leaves := by
  have hfilter : ((s.filter.entries.filter fun e => e.1 ∉ s.order.fields).map fun e =>
      (⟨e.1, e.2, none⟩ : Named)).flatMap Named.leaves = [] := by
    rw [List.flatMap_eq_nil_iff]
    intro n hn
    obtain ⟨e, -, rfl⟩ := List.mem_map.1 hn
    rfl
  rw [named, List.flatMap_append, hfilter, List.append_nil, List.flatMap_map,
    SortOrder.leaves_eq_flatMap]
  rfl

/-- A field is sorted by its own direction, and then by what is sorted by below it. -/
theorem Named.leaves_eq (n : Named) :
    n.leaves = (direction? n.order).toList.map (fun d => ⟨[], n.field, d⟩) ++
      n.below.order.leaves.map (SortLeaf.under n.field) := by
  obtain ⟨field, clause, - | ⟨d | ⟨os⟩⟩⟩ := n
  · rfl
  · simp [leaves, SortClause.leaves, direction?, below, SortClause.orderBelow, FieldMap.empty,
      SortOrder.leaves, SortClause.leavesAll]
  · simp [leaves, SortClause.leaves, direction?, below, SortClause.orderBelow, SortOrder.leaves]

/-! Leaves of plans -/

section

variable {schema : Schema} {codec : Codec} {e : Entity}

theorem order_of_planField {field : String} {clause : Clause} {order : Option SortClause}
    {part : Part} {related : Option Entity}
    (h : planField schema codec e field clause order = .ok (part, related)) :
    part.order = direction? order := by
  have hf := fieldPlan_planField schema codec e field clause order
  rw [h] at hf
  cases hf <;> rfl

/-- A field that joins nothing has no ordering below it. -/
theorem orderBelow_of_planField {field : String} {clause : Clause} {order : Option SortClause}
    {part : Part} (h : planField schema codec e field clause order = .ok (part, none)) :
    SortClause.orderBelow order = .empty := by
  have hf := fieldPlan_planField schema codec e field clause order
  rw [h] at hf
  rcases order with - | d | o
  · rfl
  · rfl
  · cases hf with
    | plain hc hr hp ho => cases ho
    | key hc hr hp hg => simp [goesOn, SortClause.isNested] at hg

theorem leafTerms_own {n : Named} {part : Part} {related : Option Entity} {hops : List Hop}
    {aliasAt : List String → String} {asName : String}
    (hf : planField schema codec e n.field n.clause n.order = .ok (part, related))
    (ha : aliasAt [] = asName) :
    List.Forall₂ (LeafTerm e hops aliasAt)
      ((direction? n.order).toList.map fun d => ⟨[], n.field, d⟩) (part.orderTerms asName) := by
  obtain ⟨c, hc, hcol, -⟩ := column_of_planField hf
  obtain ⟨hm, hfield⟩ := Entity.column?_eq_some hc
  rw [Part.orderTerms, order_of_planField hf, ← ha, ← hcol, ← hfield]
  cases direction? n.order with
  | none => exact .nil
  | some d => exact .cons (.own d hm) .nil

variable {part : Part} {related : Entity} {below rest : Plan Unit} {l asName : String}
  {placedBelow placedRest : Plan String} {leaf : SortLeaf} {t : OrderTerm}

/-- A term below a join is one of the whole, by way of the field that is joined. -/
theorem LeafTerm.below_join
    (h : LeafTerm related below.hops (placedBelow.aliasAt l) leaf t) :
    LeafTerm e (Plan.join part related () below rest).hops
      ((Plan.join part related l placedBelow placedRest).aliasAt asName)
      (leaf.under part.field) t := by
  have halias (path : List String) : placedBelow.aliasAt l path =
      (Plan.join part related l placedBelow placedRest).aliasAt asName (part.field :: path) := by
    rw [Plan.aliasAt, if_pos rfl]
  cases h with
  | own d hc =>
    rw [halias]
    have hm : ⟨[part.field], part.column, related⟩ ∈ (Plan.join part related () below rest).hops :=
      List.mem_cons_self
    exact .joined d hm hc
  | @joined hop _ d hh hc =>
    rw [halias]
    have hm : hop.under part.field ∈ (Plan.join part related () below rest).hops :=
      List.mem_cons_of_mem _ (List.mem_append_left _ (List.mem_map_of_mem hh))
    exact .joined d hm hc

/-- A term of another field is one of the whole too, since its path starts elsewhere. -/
theorem LeafTerm.beside_join (hnot : part.field ∉ rest.fields)
    (h : LeafTerm e rest.hops (placedRest.aliasAt asName) leaf t) :
    LeafTerm e (Plan.join part related () below rest).hops
      ((Plan.join part related l placedBelow placedRest).aliasAt asName) leaf t := by
  cases h with
  | own d hc =>
    rw [Plan.aliasAt_nil, ← (Plan.join part related l placedBelow placedRest).aliasAt_nil asName]
    exact .own d hc
  | @joined hop _ d hh hc =>
    obtain ⟨f, path, hpath, hf⟩ := Plan.path_of_mem_hops hh
    have hne : f ≠ part.field := fun he => hnot (he ▸ hf)
    have halias : placedRest.aliasAt asName hop.path =
        (Plan.join part related l placedBelow placedRest).aliasAt asName hop.path := by
      rw [hpath, Plan.aliasAt, if_neg hne]
    rw [halias]
    exact .joined d (List.mem_cons_of_mem _ (List.mem_append_right _ hh)) hc

/-- The order terms of a plan are the leaves of its fields, in their order. -/
theorem Planned.leafTerms {ns : List Named} {p : Plan Unit} (h : Planned schema codec e ns p)
    (hp : p.Distinct) (al : Aliases) (asName : String) :
    List.Forall₂ (LeafTerm e p.hops ((p.place al).1.aliasAt asName)) (ns.flatMap Named.leaves)
      ((p.place al).1.orderTerms asName) := by
  induction h generalizing al asName with
  | done => exact .nil
  | @field e n ns part rest hf hr ih =>
    have hbelow : n.below.order.leaves = [] := by
      rw [Named.below, orderBelow_of_planField hf]
      rfl
    rw [List.flatMap_cons, Named.leaves_eq, hbelow, List.map_nil, List.append_nil]
    simp only [Plan.place, Plan.orderTerms, Plan.hops, Plan.aliasAt_field]
    exact List.rel_append (leafTerms_own hf (Plan.aliasAt_nil _ _)) (ih hp.2 al asName)
  | @join e n ns part related inner rest hf hb hr ihb ih =>
    obtain ⟨hnot, hinner, hrest⟩ := hp
    rw [List.flatMap_cons, Named.leaves_eq, ← Scope.flatMap_leaves_named, List.append_assoc]
    refine List.rel_append (leafTerms_own hf (Plan.aliasAt_nil _ _)) (List.rel_append ?_ ?_)
    · rw [← field_of_planField hf]
      exact List.forall₂_map_left_iff.2 ((ihb hinner _ _).imp fun _ _ => LeafTerm.below_join)
    · exact (ih hrest _ _).imp fun _ _ => LeafTerm.beside_join hnot

/-- The placed plan of a scope sorts by the leaves of the scope's ordering. -/
theorem leafTerms_of_plan {s : Scope} (hs : s.Distinct) {p : Plan Unit}
    (hp : plan schema codec e s = .ok p) :
    List.Forall₂ (LeafTerm e p.hops ((p.placed e).aliasAt (sourceName e))) s.order.leaves
      ((p.placed e).orderTerms (sourceName e)) := by
  rw [← Scope.flatMap_leaves_named]
  exact (planned_of_plan _ hp).leafTerms (distinct_of_plan hs hp) _ _

end

end Compile

open Compile

/-- A compiled query sorts by the leaves of the spec's ordering, in their order, and last by the
primary key of the entity. Each leaf is at the alias of the join for its path. -/
theorem Spec.order_toQuery {spec : Spec} {schema : Schema} {codec : Codec}
    {fallbackLimit : UInt64} {entity : String} {q : Query}
    (hs : Scope.Distinct ⟨spec.filter, spec.order⟩)
    (h : spec.toQuery schema codec fallbackLimit entity = .ok q) :
    ∃ (e : Entity) (hops : List Hop) (aliasAt : List String → String) (terms : List OrderTerm),
      schema entity = some e ∧ hops = Scope.hops schema e ⟨spec.filter, spec.order⟩ ∧
      q.source = some (⟨e.table, e.schema, some (aliasAt [])⟩) ∧
      q.joins = hops.map (Hop.join aliasAt) ∧ (hops.map Hop.path).Nodup ∧
      (aliasAt [] :: hops.map fun hop => aliasAt hop.path).Nodup ∧
      List.Forall₂ (LeafTerm e hops aliasAt) spec.order.leaves terms ∧
      q.order = terms ++ [⟨.column (some (aliasAt [])) e.primaryKey, .asc⟩] := by
  obtain ⟨e, p, limit, offset, -, -, he, hp, rfl⟩ := Spec.exists_plan_of_toQuery h
  have hdistinct := distinct_of_plan hs hp
  refine ⟨e, p.hops, (p.placed e).aliasAt (sourceName e), (p.placed e).orderTerms (sourceName e),
    he, hops_of_plan _ hp, ?_⟩
  rw [Plan.aliasAt_nil, ← Plan.labels_placed hdistinct, source_addPage, joins_addPage,
    order_addPage, ← Scope.flatMap_leaves_named ⟨spec.filter, spec.order⟩]
  refine ⟨rfl, Plan.joins_place hdistinct _ _, ?_, p.nodup_labels e, ?_, rfl⟩
  · rw [hops_of_plan _ hp]
    exact nodup_paths hs
  · exact (planned_of_plan _ hp).leafTerms hdistinct _ _

theorem Staff.order_query :
    Scope.Distinct ⟨spec.filter, spec.order⟩ ∧
    spec.toQuery schema .plain 10 "Person" = .ok query ∧
    ∃ (e : Entity) (hops : List Hop) (aliasAt : List String → String) (terms : List OrderTerm),
      schema "Person" = some e ∧ hops = Scope.hops schema e ⟨spec.filter, spec.order⟩ ∧
      query.source = some (⟨e.table, e.schema, some (aliasAt [])⟩) ∧
      query.joins = hops.map (Hop.join aliasAt) ∧ (hops.map Hop.path).Nodup ∧
      (aliasAt [] :: hops.map fun hop => aliasAt hop.path).Nodup ∧
      List.Forall₂ (LeafTerm e hops aliasAt) spec.order.leaves terms ∧
      query.order = terms ++ [⟨.column (some (aliasAt [])) e.primaryKey, .asc⟩] :=
  ⟨distinct_spec, toQuery_spec, Spec.order_toQuery distinct_spec toQuery_spec⟩

end EntityQuery
