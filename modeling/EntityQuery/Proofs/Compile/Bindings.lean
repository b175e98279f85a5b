import EntityQuery.Proofs.Compile.Aliases
import EntityQuery.Proofs.Compile.Shape

/-!
What the aliases of a query stand for. Each alias is bound to one entity, whose table it names, and
every column of the query is taken from the alias of an entity that stores a field under that name.
A join speaks of its own table and of those before it only.
-/

namespace EntityQuery

open EntityQuery.Sql (Expr Join Query)

namespace Compile

/-- A column that a bound entity stores a field in, taken from the alias of that entity. -/
inductive Bound (bs : List Binding) : Expr → Prop
  | column {b : Binding} {c : Column} (hb : b ∈ bs) (hc : c ∈ b.entity.columns) :
    Bound bs (.column (some b.asName) c.column)

theorem Bound.mono {bs bs' : List Binding} (hs : bs ⊆ bs') {e : Expr} (h : Bound bs e) :
    Bound bs' e := by
  cases h with
  | column hb hc => exact .column (hs hb) hc

/-- A join of the table of `own`, where a foreign key of an entity bound earlier equals the primary
key of the one that it references. -/
inductive JoinsOn (schema : Schema) (earlier : List Binding) (own : Binding) : Join → Prop
  | key {parent : Binding} {c : Column} {target : String} (hp : parent ∈ earlier)
    (hc : c ∈ parent.entity.columns) (hr : c.references = some target)
    (ht : schema target = some own.entity) :
    JoinsOn schema earlier own ⟨own.table, .compare .eq (.column (some parent.asName) c.column)
      (.column (some own.asName) own.entity.primaryKey)⟩

/-- Joins in turn, each binding the alias of its table for those after it. -/
inductive JoinChain (schema : Schema) : List Binding → List Binding → List Join → Prop
  | nil {earlier : List Binding} : JoinChain schema earlier [] []
  | cons {earlier bs : List Binding} {own : Binding} {j : Join} {js : List Join}
    (hj : JoinsOn schema earlier own j) (hjs : JoinChain schema (earlier ++ [own]) bs js) :
    JoinChain schema earlier (own :: bs) (j :: js)

theorem JoinChain.append {schema : Schema} {earlier bs bs' : List Binding} {js js' : List Join}
    (h : JoinChain schema earlier bs js) (h' : JoinChain schema (earlier ++ bs) bs' js') :
    JoinChain schema earlier (bs ++ bs') (js ++ js') := by
  induction h with
  | nil => rwa [List.append_nil] at h'
  | cons hj hjs ih =>
    rw [List.append_cons] at h'
    exact .cons hj (ih h')

/-- The aliases of a query stand for different entities' tables, the joins follow foreign keys, and
every predicate and order term is about a bound column. -/
structure WellScoped (schema : Schema) (source : Binding) (joined : List Binding) (q : Query) :
    Prop where
  distinct : ((source :: joined).map Binding.asName).Nodup
  source_eq : q.source = some source.table
  joins : JoinChain schema [source] joined q.joins
  predicates : ∀ p ∈ q.predicates, ∃ column, Bound (source :: joined) column ∧ Flat column p
  order : ∀ t ∈ q.order, Bound (source :: joined) t.expr

/-! Predicates and aliases -/

theorem Flat.qualify {asName c : String} {e : Expr} (h : Flat (.column none c) e) :
    Flat (.column (some asName) c) (e.qualify asName) := by
  cases h with
  | isNull negated => exact .isNull negated
  | compare op hl => exact .compare op hl
  | member hl => exact .member hl
  | never => exact .never

/-! Plans -/

section

variable {schema : Schema} {codec : Codec} {e : Entity}

/-- The column of a field is one of its entity's, and what it joins is what it references. -/
theorem column_of_planField {field : String} {clause : Clause} {order : Option SortClause}
    {part : Part} {related : Option Entity}
    (h : planField schema codec e field clause order = .ok (part, related)) :
    ∃ c, e.column? field = some c ∧ c.column = part.column ∧
      ∀ r, related = some r → ∃ target, c.references = some target ∧ schema target = some r := by
  have hf := fieldPlan_planField schema codec e field clause order
  rw [h] at hf
  cases hf with
  | plain hc hr hp ho => exact ⟨_, hc, rfl, by simp⟩
  | key hc hr hp hg => exact ⟨_, hc, rfl, by simp⟩
  | related hc hr hp hg ht => exact ⟨_, hc, rfl, fun r he => ⟨_, hr, by rw [ht, he]⟩⟩

theorem Planned.joinChain {ns : List Named} {p : Plan Unit} (h : Planned schema codec e ns p)
    {earlier : List Binding} {asName : String} (hm : ⟨asName, e⟩ ∈ earlier) (al : Aliases) :
    JoinChain schema earlier (p.place al).1.bindings ((p.place al).1.joins asName) := by
  induction h generalizing earlier asName al with
  | done => exact .nil
  | field hf hr ih => exact ih hm al
  | @join e n ns part related inner rest hf hb hr ihb ih =>
    obtain ⟨c, hc, hcol, href⟩ := column_of_planField hf
    obtain ⟨target, hr, ht⟩ := href related rfl
    simp only [Plan.place, Plan.bindings, Plan.joins]
    refine .cons ?_ (.append (ihb ?_ _) (ih ?_ _))
    · rw [← hcol]
      exact .key hm (Entity.column?_eq_some hc).1 hr ht
    · exact List.mem_append_right _ (List.mem_singleton.2 rfl)
    · exact List.mem_append_left _ (List.mem_append_left _ hm)

/-- Each part of a plan is about a column of the entity that its alias stands for. -/
theorem Planned.bound_located {ns : List Named} {p : Plan Unit} (h : Planned schema codec e ns p)
    (asName : String) (al : Aliases) : ∀ x ∈ (p.place al).1.located asName,
      Bound (⟨asName, e⟩ :: (p.place al).1.bindings) (.column (some x.2) x.1.column) := by
  have own {e : Entity} {n : Named} {part : Part} {related : Option Entity} {asName : String}
      {bs : List Binding}
      (hf : planField schema codec e n.field n.clause n.order = .ok (part, related)) :
      Bound (⟨asName, e⟩ :: bs) (.column (some asName) part.column) := by
    obtain ⟨c, hc, hcol, -⟩ := column_of_planField hf
    rw [← hcol]
    exact .column (b := ⟨asName, e⟩) List.mem_cons_self (Entity.column?_eq_some hc).1
  induction h generalizing asName al with
  | done => simp [Plan.place, Plan.located]
  | field hf hr ih => exact List.forall_mem_cons.2 ⟨own hf, ih asName al⟩
  | join hf hb hr ihb ih =>
    simp only [Plan.place, Plan.located, Plan.bindings]
    refine List.forall_mem_cons.2 ⟨own hf, ?_⟩
    refine List.forall_mem_append.2 ⟨fun x hx => ?_, fun x hx => ?_⟩
    · refine (ihb _ _ x hx).mono fun b hb => ?_
      rw [← List.cons_append]
      exact List.mem_cons_of_mem _ (List.mem_append_left _ hb)
    · refine (ih _ _ x hx).mono (List.cons_subset_cons _ fun b hb => ?_)
      exact List.mem_cons_of_mem _ (List.mem_append_right _ hb)

end

end Compile

open Compile

/-- Every compiled query is flat and well scoped: its aliases are bound to the entity that it is
about and to those that it joins, and all its columns are columns of theirs. -/
theorem Spec.wellScoped_toQuery {spec : Spec} {schema : Schema} {codec : Codec}
    {fallbackLimit : UInt64} {entity : String} {q : Query}
    (h : spec.toQuery schema codec fallbackLimit entity = .ok q) :
    ∃ (source : Binding) (joined : List Binding), schema entity = some source.entity ∧
      WellScoped schema source joined q := by
  obtain ⟨e, p, limit, offset, -, -, he, hp, rfl⟩ := Spec.exists_plan_of_toQuery h
  have hplanned := planned_of_plan _ hp
  have hflat : ∀ q ∈ (p.placed e).parts, q.IsFlat := hplanned.isFlat_place _
  have hbound := hplanned.bound_located (sourceName e) (Aliases.allocate {} e.table).2
  refine ⟨⟨sourceName e, e⟩, (p.placed e).bindings, he, ?_, ?_, ?_, ?_, ?_⟩
  · rw [List.map_cons, Plan.asNames_bindings]
    exact p.nodup_labels e
  · rw [source_addPage]
    rfl
  · rw [joins_addPage]
    exact hplanned.joinChain (List.mem_singleton.2 rfl) _
  · rw [predicates_addPage]
    intro e he
    obtain ⟨x, hx, q, hq, rfl⟩ := Plan.exists_flat_of_mem_predicates hflat he
    exact ⟨_, hbound x hx, hq.qualify⟩
  · rw [order_addPage]
    refine List.forall_mem_append.2 ⟨fun t ht => ?_, List.forall_mem_singleton.2 ?_⟩
    · rw [Plan.orderTerms_eq] at ht
      obtain ⟨x, hx, ht⟩ := List.mem_flatMap.1 ht
      obtain ⟨d, -, rfl⟩ := List.mem_map.1 ht
      exact hbound x hx
    · exact .column (b := ⟨sourceName e, e⟩) (c := e.idColumn) List.mem_cons_self
        List.mem_cons_self

theorem Staff.wellScoped_query :
    spec.toQuery schema .plain 10 "Person" = .ok query ∧
    ∃ (source : Binding) (joined : List Binding), schema "Person" = some source.entity ∧
      WellScoped schema source joined query :=
  ⟨toQuery_spec, Spec.wellScoped_toQuery toQuery_spec⟩

end EntityQuery
