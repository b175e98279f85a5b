import EntityQuery.Proofs.Compile.Plan

/-!
A run of the compiler follows the plan. If the plan fails so does the run, with the same error;
otherwise the run ends with the placed plan added to the query, and the aliases used up.
-/

namespace EntityQuery

namespace Compile

open EntityQuery.Sql (Expr Join OrderTerm Query Table)

section

variable {α β : Type} {m : CompileM α} {f : α → CompileM β} {d d' : Draft}

theorem run_bind_ok {a : α} (h : m.run.run d = (.ok a, d')) :
    (m >>= f).run.run d = (f a).run.run d' := by
  rw [ExceptT.run_bind, StateT.run_bind, h]
  rfl

theorem run_bind_error {err : CompileError} (h : (m.run.run d).1 = .error err) :
    ((m >>= f).run.run d).1 = .error err := by
  rw [ExceptT.run_bind, StateT.run_bind]
  generalize m.run.run d = r at h
  obtain ⟨r, d'⟩ := r
  cases h
  rfl

theorem run_lift_ok {x : Except CompileError α} {a : α} (h : x = .ok a) :
    (liftM x : CompileM α).run.run d = (.ok a, d) := by
  subst h
  rfl

theorem run_lift_error {x : Except CompileError α} {err : CompileError} (h : x = .error err) :
    ((liftM x : CompileM α).run.run d).1 = .error err := by
  subst h
  rfl

end

/-! Single fields -/

namespace Part

/-- The query with what a field adds by itself. -/
def addTo (p : Part) (asName : String) (q : Query) : Query :=
  { q with
    predicates := q.predicates ++ p.predicates asName
    order := q.order ++ p.orderTerms asName }

end Part

theorem run_addPredicate (asName : String) (p : Option Expr) (d : Draft) :
    (addPredicate (p.map (Expr.qualify asName))).run.run d =
      (.ok (), { d with query := { d.query with
        predicates := d.query.predicates ++ p.toList.map (Expr.qualify asName) } }) := by
  cases p with
  | none => simp [addPredicate]; rfl
  | some e => rfl

theorem run_addOrder (column : Expr) (order : Option SortClause) (d : Draft) :
    (addOrder column order).run.run d =
      (.ok (), { d with query := { d.query with
        order := d.query.order ++ (direction? order).toList.map fun o => ⟨column, o⟩ } }) := by
  rcases order with - | ⟨o⟩ | o
  · simp [addOrder, direction?]; rfl
  · rfl
  · simp [addOrder, direction?]; rfl

section

variable {codec : Codec} {site : Site} {asName c : String} {clause : Clause}
  {order : Option SortClause} {d : Draft}

theorem run_visitPlain_ok (field : String) {p : Option Expr}
    (hp : plainPredicate codec site (.column none c) clause = .ok p)
    (ho : checkPlainOrder site order = .ok ()) :
    (visitPlain codec site (columnOf asName c) clause order).run.run d =
      (.ok (),
        { d with query := (Part.mk field c p (direction? order)).addTo asName d.query }) := by
  have hq : plainPredicate codec site (columnOf asName c) clause =
      .ok (p.map (Expr.qualify asName)) := by
    rw [plainPredicate_columnOf, hp]
    rfl
  unfold visitPlain
  rw [run_bind_ok (run_lift_ok hq), run_bind_ok (run_addPredicate asName p d),
    run_bind_ok (run_lift_ok ho), run_addOrder]
  rfl

theorem run_visitKey_ok (field : String) {p : Option Expr}
    (hp : keyPredicate codec site (.column none c) clause = .ok p) :
    (visitKey codec site (columnOf asName c) clause order).run.run d =
      (.ok (),
        { d with query := (Part.mk field c p (direction? order)).addTo asName d.query }) := by
  have hq : keyPredicate codec site (columnOf asName c) clause =
      .ok (p.map (Expr.qualify asName)) := by
    rw [keyPredicate_columnOf, hp]
    rfl
  unfold visitKey
  rw [run_bind_ok (run_lift_ok hq), run_bind_ok (run_addPredicate asName p d), run_addOrder]
  rfl

theorem run_visitPlain_refused {err : CompileError}
    (h : plainPredicate codec site (.column none c) clause = .error err) :
    ((visitPlain codec site (columnOf asName c) clause order).run.run d).1 = .error err := by
  unfold visitPlain
  exact run_bind_error (run_lift_error (by rw [plainPredicate_columnOf, h]; rfl))

theorem run_visitPlain_orderRefused {p : Option Expr} {err : CompileError}
    (hp : plainPredicate codec site (.column none c) clause = .ok p)
    (ho : checkPlainOrder site order = .error err) :
    ((visitPlain codec site (columnOf asName c) clause order).run.run d).1 = .error err := by
  have hq : plainPredicate codec site (columnOf asName c) clause =
      .ok (p.map (Expr.qualify asName)) := by
    rw [plainPredicate_columnOf, hp]
    rfl
  unfold visitPlain
  rw [run_bind_ok (run_lift_ok hq), run_bind_ok (run_addPredicate asName p d)]
  exact run_bind_error (run_lift_error ho)

theorem run_visitKey_refused {err : CompileError}
    (h : keyPredicate codec site (.column none c) clause = .error err) :
    ((visitKey codec site (columnOf asName c) clause order).run.run d).1 = .error err := by
  unfold visitKey
  exact run_bind_error (run_lift_error (by rw [keyPredicate_columnOf, h]; rfl))

end

section

variable {schema : Schema} {codec : Codec} {e : Entity} {field asName : String} {clause : Clause}
  {order : Option SortClause} {d : Draft}

/-- The draft after a field that joins nothing. -/
def Draft.withPart (d : Draft) (p : Part) (asName : String) : Draft :=
  { d with query := p.addTo asName d.query }

/-- The draft with the table of `related` joined, under its next alias. -/
def Draft.withRelated (d : Draft) (asName key : String) (related : Entity) : Draft :=
  let own := d.aliases.allocate related.table
  ⟨own.2, d.query.addJoin (relatedJoin asName key related own.1)⟩

theorem run_visitField_error {err : CompileError}
    (h : planField schema codec e field clause order = .error err) :
    ((visitField schema codec e asName field clause order).run.run d).1 = .error err := by
  have hf := fieldPlan_planField schema codec e field clause order
  rw [h] at hf
  cases hf with
  | unknownField hc =>
    simp only [visitField, hc]
    rfl
  | plainRefused hc hr hp =>
    simp only [visitField, hc, hr]
    exact run_bind_error (run_visitPlain_refused hp)
  | orderRefused hc hr hp ho =>
    simp only [visitField, hc, hr]
    exact run_bind_error (run_visitPlain_orderRefused hp ho)
  | keyRefused hc hr hp =>
    simp only [visitField, hc, hr]
    exact run_bind_error (run_visitKey_refused hp)
  | unknownEntity hc hr hp hg ht =>
    simp only [visitField, hc, hr, hg]
    rw [run_bind_ok (run_visitKey_ok field hp)]
    refine run_bind_error ?_
    simp only [joinRelated, ht]
    rfl

theorem run_visitField_own {part : Part}
    (h : planField schema codec e field clause order = .ok (part, none)) :
    (visitField schema codec e asName field clause order).run.run d =
      (.ok none, d.withPart part asName) := by
  have hf := fieldPlan_planField schema codec e field clause order
  rw [h] at hf
  cases hf with
  | plain hc hr hp ho =>
    simp only [visitField, hc, hr]
    rw [run_bind_ok (run_visitPlain_ok field hp ho)]
    rfl
  | key hc hr hp hg =>
    simp only [visitField, hc, hr, hg]
    rw [run_bind_ok (run_visitKey_ok field hp)]
    rfl

theorem run_visitField_related {part : Part} {related : Entity}
    (h : planField schema codec e field clause order = .ok (part, some related)) :
    (visitField schema codec e asName field clause order).run.run d =
      (.ok (some (related, (d.aliases.allocate related.table).1)),
        (d.withPart part asName).withRelated asName part.column related) := by
  have hf := fieldPlan_planField schema codec e field clause order
  rw [h] at hf
  cases hf with
  | related hc hr hp hg ht =>
    simp only [visitField, hc, hr, hg]
    rw [run_bind_ok (run_visitKey_ok field hp)]
    simp only [joinRelated, ht]
    rfl

end

/-! Lists of visits -/

/-- The draft after the visits that have been planned. -/
def Draft.withPlan (d : Draft) (p : Plan Unit) (asName : String) : Draft :=
  ⟨(p.place d.aliases).2, (p.place d.aliases).1.addTo asName d.query⟩

theorem withPlan_done (d : Draft) (asName : String) : d.withPlan .done asName = d := by
  simp [Draft.withPlan, Plan.place, Plan.addTo, Plan.joins, Plan.predicates, Plan.orderTerms]

theorem withPlan_field (d : Draft) (part : Part) (rest : Plan Unit) (asName : String) :
    d.withPlan (.field part rest) asName = (d.withPart part asName).withPlan rest asName := by
  simp [Draft.withPlan, Draft.withPart, Plan.place, Plan.addTo, Part.addTo, Plan.joins,
    Plan.predicates, Plan.orderTerms]

theorem withPlan_join (d : Draft) (part : Part) (related : Entity) (below rest : Plan Unit)
    (asName : String) :
    d.withPlan (.join part related () below rest) asName =
      (((d.withPart part asName).withRelated asName part.column related).withPlan below
        (d.aliases.allocate related.table).1).withPlan rest asName := by
  simp [Draft.withPlan, Draft.withPart, Draft.withRelated, Plan.place, Plan.addTo, Part.addTo,
    Plan.joins, Plan.predicates, Plan.orderTerms, Query.addJoin]

section

variable {schema : Schema} {codec : Codec} {e : Entity} {field asName : String} {clause : Clause}
  {order : Option SortClause} {below : List Visit} {d : Draft}

theorem run_visit_error {err : CompileError}
    (h : planField schema codec e field clause order = .error err) :
    ((visit schema codec e asName (.field field clause order below)).run.run d).1 = .error err := by
  rw [visit]
  exact run_bind_error (run_visitField_error h)

theorem run_visit_own {part : Part}
    (h : planField schema codec e field clause order = .ok (part, none)) :
    (visit schema codec e asName (.field field clause order below)).run.run d =
      (.ok (), d.withPart part asName) := by
  rw [visit, run_bind_ok (run_visitField_own h)]
  rfl

theorem run_visit_related {part : Part} {related : Entity}
    (h : planField schema codec e field clause order = .ok (part, some related)) :
    (visit schema codec e asName (.field field clause order below)).run.run d =
      (visitAll schema codec related (d.aliases.allocate related.table).1 below).run.run
        ((d.withPart part asName).withRelated asName part.column related) := by
  rw [visit, run_bind_ok (run_visitField_related h)]

end

variable {schema : Schema} {codec : Codec}

theorem run_visitAll_ok {e : Entity} {vs : List Visit} {p : Plan Unit}
    (h : planAll schema codec e vs = .ok p) (asName : String) (d : Draft) :
    (visitAll schema codec e asName vs).run.run d = (.ok (), d.withPlan p asName) := by
  induction e, vs using planAll.induct generalizing p asName d with
  | case1 e =>
    rw [planAll] at h
    cases h
    rw [visitAll, withPlan_done]
    rfl
  | case2 e field clause order below vs ihrest ihbelow =>
    rw [visitAll]
    rcases planAll_cons_ok h with ⟨part, rest, hf, hr, rfl⟩ |
      ⟨part, related, inner, rest, hf, hb, hr, rfl⟩
    · rw [run_bind_ok (run_visit_own hf), ihrest hr, withPlan_field]
    · rw [run_bind_ok ((run_visit_related hf).trans (ihbelow related hb _ _)), ihrest hr,
        withPlan_join]

theorem run_visitAll_error {e : Entity} {vs : List Visit} {err : CompileError}
    (h : planAll schema codec e vs = .error err) (asName : String) (d : Draft) :
    ((visitAll schema codec e asName vs).run.run d).1 = .error err := by
  induction e, vs using planAll.induct generalizing asName d with
  | case1 e =>
    rw [planAll] at h
    cases h
  | case2 e field clause order below vs ihrest ihbelow =>
    rw [visitAll]
    rcases planAll_cons_error h with hf | ⟨part, related, hf, hb⟩ | ⟨part, hf, hr⟩ |
      ⟨part, related, inner, hf, hb, hr⟩
    · exact run_bind_error (run_visit_error hf)
    · refine run_bind_error ?_
      rw [run_visit_related hf]
      exact ihbelow related hb _ _
    · rw [run_bind_ok (run_visit_own hf)]
      exact ihrest hr _ _
    · rw [run_bind_ok ((run_visit_related hf).trans (run_visitAll_ok hb _ _))]
      exact ihrest hr _ _

/-! Whole queries -/

/-- The query of a placed plan, before its page. The last order term is the primary key of the
entity, so that no two rows are alike in all of them. -/
def Plan.query (p : Plan String) (e : Entity) (asName : String) : Query where
  select := [.star (some asName)]
  source := some ⟨e.table, e.schema, some asName⟩
  joins := p.joins asName
  predicates := p.predicates asName
  order := p.orderTerms asName ++ [⟨.column (some asName) e.primaryKey, .asc⟩]

/-- The plan with the aliases that follow on that of the entity itself. -/
def Plan.placed (p : Plan Unit) (e : Entity) : Plan String :=
  (p.place (Aliases.allocate {} e.table).2).1

/-- The alias of the entity that a query is about. -/
def sourceName (e : Entity) : String := (Aliases.allocate {} e.table).1

theorem run_draftQuery_ok {e : Entity} {spec : Spec} {p : Plan Unit}
    (h : plan schema codec e ⟨spec.filter, spec.order⟩ = .ok p) :
    (draftQuery schema codec e spec).run.run {} =
      (.ok (sourceName e), ⟨(p.place (Aliases.allocate {} e.table).2).2,
        (p.placed e).addTo (sourceName e) (baseQuery e (sourceName e))⟩) := by
  unfold draftQuery compileClauses
  have hv := run_visitAll_ok h (sourceName e)
    ⟨(Aliases.allocate {} e.table).2, baseQuery e (sourceName e)⟩
  exact (run_bind_ok hv).trans rfl

theorem run_draftQuery_error {e : Entity} {spec : Spec} {err : CompileError}
    (h : plan schema codec e ⟨spec.filter, spec.order⟩ = .error err) :
    ((draftQuery schema codec e spec).run.run {}).1 = .error err := by
  unfold draftQuery compileClauses
  have hv := run_visitAll_error h (sourceName e)
    ⟨(Aliases.allocate {} e.table).2, baseQuery e (sourceName e)⟩
  have hb := run_bind_error (f := fun _ => pure (sourceName e)) hv
  exact hb

end Compile

open Compile
open EntityQuery.Sql (Query)

/-- All that compiling a spec can come to: its page is checked, its entity found and its fields
planned. -/
inductive Spec.Outcome (spec : Spec) (schema : Schema) (codec : Codec) (fallbackLimit : UInt64)
    (entity : String) : Except CompileError Query → Prop
  | limitRefused {err : CompileError}
    (hl : checkRowCount .limit (spec.limit.getD fallbackLimit) = .error err) :
    Outcome spec schema codec fallbackLimit entity (.error err)
  | offsetRefused {limit : UInt64} {err : CompileError}
    (hl : checkRowCount .limit (spec.limit.getD fallbackLimit) = .ok limit)
    (ho : checkOffset spec.offset = .error err) :
    Outcome spec schema codec fallbackLimit entity (.error err)
  | unknownEntity {limit : UInt64} {offset : Option UInt64}
    (hl : checkRowCount .limit (spec.limit.getD fallbackLimit) = .ok limit)
    (ho : checkOffset spec.offset = .ok offset) (he : schema entity = none) :
    Outcome spec schema codec fallbackLimit entity (.error (.unknownEntity entity))
  | refused {limit : UInt64} {offset : Option UInt64} {e : Entity} {err : CompileError}
    (hl : checkRowCount .limit (spec.limit.getD fallbackLimit) = .ok limit)
    (ho : checkOffset spec.offset = .ok offset) (he : schema entity = some e)
    (hp : plan schema codec.guarded e ⟨spec.filter, spec.order⟩ = .error err) :
    Outcome spec schema codec fallbackLimit entity (.error err)
  | compiled {limit : UInt64} {offset : Option UInt64} {e : Entity} {p : Plan Unit}
    (hl : checkRowCount .limit (spec.limit.getD fallbackLimit) = .ok limit)
    (ho : checkOffset spec.offset = .ok offset) (he : schema entity = some e)
    (hp : plan schema codec.guarded e ⟨spec.filter, spec.order⟩ = .ok p) :
    Outcome spec schema codec fallbackLimit entity
      (.ok (addPage ((p.placed e).query e (sourceName e)) limit offset))

theorem Spec.outcome_toQuery (spec : Spec) (schema : Schema) (codec : Codec)
    (fallbackLimit : UInt64) (entity : String) :
    spec.Outcome schema codec fallbackLimit entity
      (spec.toQuery schema codec fallbackLimit entity) := by
  unfold Spec.toQuery
  cases hl : checkRowCount .limit (spec.limit.getD fallbackLimit) with
  | error err => exact .limitRefused hl
  | ok limit =>
    cases ho : checkOffset spec.offset with
    | error err => exact .offsetRefused hl ho
    | ok offset =>
      cases he : schema entity with
      | none => exact .unknownEntity hl ho he
      | some e =>
        cases hp : plan schema codec.guarded e ⟨spec.filter, spec.order⟩ with
        | error err =>
          have hr := run_draftQuery_error hp
          simp only [bind, Except.bind]
          generalize (draftQuery schema codec.guarded e spec).run.run {} = r at hr
          obtain ⟨r, d⟩ := r
          cases hr
          exact .refused hl ho he hp
        | ok p =>
          simp only [run_draftQuery_ok hp]
          exact .compiled hl ho he hp

/-- Compiling a spec is planning it, once its page is checked and its entity found. -/
theorem Spec.toQuery_eq (spec : Spec) (schema : Schema) (codec : Codec) (fallbackLimit : UInt64)
    (entity : String) :
    spec.toQuery schema codec fallbackLimit entity = do
      let limit ← checkRowCount .limit (spec.limit.getD fallbackLimit)
      let offset ← checkOffset spec.offset
      match schema entity with
      | none => throw (.unknownEntity entity)
      | some e =>
        let p ← plan schema codec.guarded e ⟨spec.filter, spec.order⟩
        return addPage ((p.placed e).query e (sourceName e)) limit offset := by
  have h := spec.outcome_toQuery schema codec fallbackLimit entity
  generalize spec.toQuery schema codec fallbackLimit entity = r at h
  cases h with
  | limitRefused hl => rw [hl]; rfl
  | offsetRefused hl ho => rw [hl, ho]; rfl
  | unknownEntity hl ho he => rw [hl, ho, he]; rfl
  | refused hl ho he hp => simp only [hl, ho, he, hp]; rfl
  | compiled hl ho he hp => simp only [hl, ho, he, hp]; rfl

/-- What a compiled query consists of. -/
theorem Spec.exists_plan_of_toQuery {spec : Spec} {schema : Schema} {codec : Codec}
    {fallbackLimit : UInt64} {entity : String} {q : Query}
    (h : spec.toQuery schema codec fallbackLimit entity = .ok q) :
    ∃ e p limit offset, checkRowCount .limit (spec.limit.getD fallbackLimit) = .ok limit ∧
      checkOffset spec.offset = .ok offset ∧ schema entity = some e ∧
      plan schema codec.guarded e ⟨spec.filter, spec.order⟩ = .ok p ∧
      q = addPage ((p.placed e).query e (sourceName e)) limit offset := by
  have ho := spec.outcome_toQuery schema codec fallbackLimit entity
  rw [h] at ho
  cases ho with
  | compiled hl ho he hp => exact ⟨_, _, _, _, hl, ho, he, hp, rfl⟩

section

variable (q : Query) (limit : UInt64) (offset : Option UInt64)

@[simp] theorem Compile.source_addPage : (addPage q limit offset).source = q.source := by
  cases offset <;> rfl

@[simp] theorem Compile.select_addPage : (addPage q limit offset).select = q.select := by
  cases offset <;> rfl

@[simp] theorem Compile.joins_addPage : (addPage q limit offset).joins = q.joins := by
  cases offset <;> rfl

@[simp] theorem Compile.predicates_addPage :
    (addPage q limit offset).predicates = q.predicates := by
  cases offset <;> rfl

@[simp] theorem Compile.order_addPage : (addPage q limit offset).order = q.order := by
  cases offset <;> rfl

end

end EntityQuery
