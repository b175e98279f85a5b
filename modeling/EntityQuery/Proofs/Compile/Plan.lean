import EntityQuery.Compile.Query
import EntityQuery.Proofs.Compile.Predicate
import EntityQuery.Proofs.Compile.Scope

/-!
Compiling in two steps. Planning decides, field by field, what is added to a query: it fails where
compiling fails and knows nothing of aliases. Placing gives every joined table its alias and cannot
fail. A query is compiled exactly if it can be planned, and then it is the one that the placed plan
reads out.
-/

namespace EntityQuery.Compile

open EntityQuery.Sql (Expr Join OrderTerm Query Table)

/-- What a field adds to a query by itself; the predicate is on a column without a table. -/
structure Part where
  field : String
  column : String
  predicate : Option Expr
  order : Option Direction

/-- What a scope adds to a query, its fields in the order of their visits. Every join carries a
label, which is its alias once the plan is placed. -/
inductive Plan (α : Type) where
  | done
  | field (part : Part) (rest : Plan α)
  | join (part : Part) (related : Entity) (label : α) (below rest : Plan α)

/-! Planning -/

def direction? : Option SortClause → Option Direction
  | some (.direction d) => some d
  | _ => none

/-- What a field adds, and the entity whose table it joins. -/
def planField (schema : Schema) (codec : Codec) (e : Entity) (field : String) (clause : Clause)
    (order : Option SortClause) : Except CompileError (Part × Option Entity) := do
  let site : Site := ⟨e.name, field⟩
  match e.column? field with
  | none => throw (.unknownField site)
  | some c =>
    match c.references with
    | none =>
      let p ← plainPredicate codec site (.column none c.column) clause
      checkPlainOrder site order
      return (⟨field, c.column, p, direction? order⟩, none)
    | some target =>
      let p ← keyPredicate codec site (.column none c.column) clause
      if goesOn clause order then
        match schema target with
        | none => throw (.unknownEntity target)
        | some related => return (⟨field, c.column, p, direction? order⟩, some related)
      else
        return (⟨field, c.column, p, direction? order⟩, none)

/-- All that planning a field can come to. -/
inductive FieldPlan (schema : Schema) (codec : Codec) (e : Entity) (field : String)
    (clause : Clause) (order : Option SortClause) :
    Except CompileError (Part × Option Entity) → Prop
  | unknownField (hc : e.column? field = none) :
    FieldPlan schema codec e field clause order (.error (.unknownField ⟨e.name, field⟩))
  | plain {c : Column} {p : Option Expr} (hc : e.column? field = some c) (hr : c.references = none)
    (hp : plainPredicate codec ⟨e.name, field⟩ (.column none c.column) clause = .ok p)
    (ho : checkPlainOrder ⟨e.name, field⟩ order = .ok ()) :
    FieldPlan schema codec e field clause order (.ok (⟨field, c.column, p, direction? order⟩, none))
  | plainRefused {c : Column} {err : CompileError} (hc : e.column? field = some c)
    (hr : c.references = none)
    (hp : plainPredicate codec ⟨e.name, field⟩ (.column none c.column) clause = .error err) :
    FieldPlan schema codec e field clause order (.error err)
  | orderRefused {c : Column} {p : Option Expr} {err : CompileError}
    (hc : e.column? field = some c) (hr : c.references = none)
    (hp : plainPredicate codec ⟨e.name, field⟩ (.column none c.column) clause = .ok p)
    (ho : checkPlainOrder ⟨e.name, field⟩ order = .error err) :
    FieldPlan schema codec e field clause order (.error err)
  | key {c : Column} {target : String} {p : Option Expr} (hc : e.column? field = some c)
    (hr : c.references = some target)
    (hp : keyPredicate codec ⟨e.name, field⟩ (.column none c.column) clause = .ok p)
    (hg : goesOn clause order = false) :
    FieldPlan schema codec e field clause order (.ok (⟨field, c.column, p, direction? order⟩, none))
  | keyRefused {c : Column} {target : String} {err : CompileError} (hc : e.column? field = some c)
    (hr : c.references = some target)
    (hp : keyPredicate codec ⟨e.name, field⟩ (.column none c.column) clause = .error err) :
    FieldPlan schema codec e field clause order (.error err)
  | related {c : Column} {target : String} {p : Option Expr} {related : Entity}
    (hc : e.column? field = some c) (hr : c.references = some target)
    (hp : keyPredicate codec ⟨e.name, field⟩ (.column none c.column) clause = .ok p)
    (hg : goesOn clause order = true) (ht : schema target = some related) :
    FieldPlan schema codec e field clause order
      (.ok (⟨field, c.column, p, direction? order⟩, some related))
  | unknownEntity {c : Column} {target : String} {p : Option Expr}
    (hc : e.column? field = some c) (hr : c.references = some target)
    (hp : keyPredicate codec ⟨e.name, field⟩ (.column none c.column) clause = .ok p)
    (hg : goesOn clause order = true) (ht : schema target = none) :
    FieldPlan schema codec e field clause order (.error (.unknownEntity target))

theorem fieldPlan_planField (schema : Schema) (codec : Codec) (e : Entity) (field : String)
    (clause : Clause) (order : Option SortClause) :
    FieldPlan schema codec e field clause order
      (planField schema codec e field clause order) := by
  unfold planField
  cases hc : e.column? field with
  | none => exact .unknownField hc
  | some c =>
    cases hr : c.references with
    | none =>
      simp only [hr]
      cases hp : plainPredicate codec ⟨e.name, field⟩ (.column none c.column) clause with
      | error err => exact .plainRefused hc hr hp
      | ok p =>
        cases ho : checkPlainOrder ⟨e.name, field⟩ order with
        | error err => exact .orderRefused hc hr hp ho
        | ok u => exact .plain hc hr hp ho
    | some target =>
      simp only [hr]
      cases hp : keyPredicate codec ⟨e.name, field⟩ (.column none c.column) clause with
      | error err => exact .keyRefused hc hr hp
      | ok p =>
        cases hg : goesOn clause order with
        | false => exact .key hc hr hp hg
        | true =>
          cases ht : schema target with
          | none => exact .unknownEntity hc hr hp hg ht
          | some related => exact .related hc hr hp hg ht

/-- A plan joins a table just where the scope follows a key. -/
theorem hop?_of_planField {schema : Schema} {codec : Codec} {e : Entity} {n : Named}
    {part : Part} {related : Option Entity}
    (h : planField schema codec e n.field n.clause n.order = .ok (part, related)) :
    n.hop? schema e = related.map fun related => (part.column, related) := by
  have hf := fieldPlan_planField schema codec e n.field n.clause n.order
  rw [h] at hf
  cases hf with
  | plain hc hr hp ho => simp [Named.hop?_eq, hc, hr]
  | key hc hr hp hg => simp [Named.hop?_eq, hc, hg]
  | related hc hr hp hg ht => simp [Named.hop?_eq, hc, hr, hg, ht]

def planAll (schema : Schema) (codec : Codec) :
    Entity → List Visit → Except CompileError (Plan Unit)
  | _, [] => return .done
  | e, .field name clause order below :: vs => do
    match ← planField schema codec e name clause order with
    | (part, none) => return .field part (← planAll schema codec e vs)
    | (part, some related) =>
      let inner ← planAll schema codec related below
      return .join part related () inner (← planAll schema codec e vs)
termination_by _ vs => sizeOf vs
decreasing_by
  all_goals
    simp only [List.cons.sizeOf_spec, Visit.field.sizeOf_spec]
    omega

section

variable {schema : Schema} {codec : Codec} {e : Entity} {field : String} {clause : Clause}
  {order : Option SortClause} {below vs : List Visit}

theorem planAll_cons_ok {p : Plan Unit}
    (h : planAll schema codec e (.field field clause order below :: vs) = .ok p) :
    (∃ part rest, planField schema codec e field clause order = .ok (part, none) ∧
      planAll schema codec e vs = .ok rest ∧ p = .field part rest) ∨
    (∃ part related inner rest,
      planField schema codec e field clause order = .ok (part, some related) ∧
      planAll schema codec related below = .ok inner ∧
      planAll schema codec e vs = .ok rest ∧ p = .join part related () inner rest) := by
  rw [planAll] at h
  cases hf : planField schema codec e field clause order with
  | error err => rw [hf] at h; cases h
  | ok r =>
    obtain ⟨part, - | related⟩ := r
    · cases hr : planAll schema codec e vs with
      | error err => rw [hf, hr] at h; cases h
      | ok rest =>
        rw [hf, hr] at h
        cases h
        exact .inl ⟨part, rest, rfl, rfl, rfl⟩
    · cases hb : planAll schema codec related below with
      | error err => simp only [hf, hb, bind, Except.bind] at h; cases h
      | ok inner =>
        cases hr : planAll schema codec e vs with
        | error err => simp only [hf, hb, hr, bind, Except.bind] at h; cases h
        | ok rest =>
          simp only [hf, hb, hr, bind, Except.bind] at h
          cases h
          exact .inr ⟨part, related, inner, rest, rfl, hb, rfl, rfl⟩

theorem planAll_cons_error {err : CompileError}
    (h : planAll schema codec e (.field field clause order below :: vs) = .error err) :
    planField schema codec e field clause order = .error err ∨
    (∃ part related, planField schema codec e field clause order = .ok (part, some related) ∧
      planAll schema codec related below = .error err) ∨
    (∃ part, planField schema codec e field clause order = .ok (part, none) ∧
      planAll schema codec e vs = .error err) ∨
    ∃ part related inner,
      planField schema codec e field clause order = .ok (part, some related) ∧
      planAll schema codec related below = .ok inner ∧ planAll schema codec e vs = .error err := by
  rw [planAll] at h
  cases hf : planField schema codec e field clause order with
  | error err' => rw [hf] at h; cases h; exact .inl rfl
  | ok r =>
    obtain ⟨part, - | related⟩ := r
    · cases hr : planAll schema codec e vs with
      | ok rest => rw [hf, hr] at h; cases h
      | error err' =>
        rw [hf, hr] at h
        cases h
        exact .inr (.inr (.inl ⟨part, rfl, rfl⟩))
    · cases hb : planAll schema codec related below with
      | error err' =>
        simp only [hf, hb, bind, Except.bind] at h
        cases h
        exact .inr (.inl ⟨part, related, rfl, hb⟩)
      | ok inner =>
        cases hr : planAll schema codec e vs with
        | ok rest => simp only [hf, hb, hr, bind, Except.bind] at h; cases h
        | error err' =>
          simp only [hf, hb, hr, bind, Except.bind] at h
          cases h
          exact .inr (.inr (.inr ⟨part, related, inner, rfl, hb, rfl⟩))

end

/-- The plan of a scope. -/
def plan (schema : Schema) (codec : Codec) (e : Entity) (s : Scope) :
    Except CompileError (Plan Unit) :=
  planAll schema codec e (Visit.ofScope s.filter s.order)

/-- How the plan of an entity's fields is made up. -/
inductive Planned (schema : Schema) (codec : Codec) : Entity → List Named → Plan Unit → Prop
  | done {e : Entity} : Planned schema codec e [] .done
  | field {e : Entity} {n : Named} {ns : List Named} {part : Part} {rest : Plan Unit}
    (hf : planField schema codec e n.field n.clause n.order = .ok (part, none))
    (hr : Planned schema codec e ns rest) : Planned schema codec e (n :: ns) (.field part rest)
  | join {e : Entity} {n : Named} {ns : List Named} {part : Part} {related : Entity}
    {inner rest : Plan Unit}
    (hf : planField schema codec e n.field n.clause n.order = .ok (part, some related))
    (hb : Planned schema codec related n.below.named inner) (hr : Planned schema codec e ns rest) :
    Planned schema codec e (n :: ns) (.join part related () inner rest)

section

variable {schema : Schema} {codec : Codec} {e : Entity}

theorem planned_of_planAll {ns : List Named} {p : Plan Unit}
    (hbelow : ∀ n ∈ ns, ∀ related p, plan schema codec related n.below = .ok p →
      Planned schema codec related n.below.named p)
    (h : planAll schema codec e (ns.map Named.toVisit) = .ok p) : Planned schema codec e ns p := by
  induction ns generalizing p with
  | nil =>
    rw [List.map_nil, planAll] at h
    cases h
    exact .done
  | cons n ns ih =>
    obtain ⟨hn, hns⟩ := List.forall_mem_cons.1 hbelow
    rw [List.map_cons, Named.toVisit] at h
    rcases planAll_cons_ok h with ⟨part, rest, hf, hr, rfl⟩ |
      ⟨part, related, inner, rest, hf, hb, hr, rfl⟩
    · exact .field hf (ih hns hr)
    · exact .join hf (hn related inner hb) (ih hns hr)

theorem planned_of_plan (s : Scope) {p : Plan Unit} (h : plan schema codec e s = .ok p) :
    Planned schema codec e s.named p := by
  induction s using Scope.induction generalizing e p with
  | step s ih =>
    rw [plan, Visit.ofScope_eq_map] at h
    exact planned_of_planAll (fun n hn related p hp => ih n hn hp) h

theorem exists_mem_of_planAll {ns : List Named} {err : CompileError}
    (h : planAll schema codec e (ns.map Named.toVisit) = .error err) :
    ∃ n ∈ ns, planField schema codec e n.field n.clause n.order = .error err ∨
      ∃ part related,
        planField schema codec e n.field n.clause n.order = .ok (part, some related) ∧
        plan schema codec related n.below = .error err := by
  induction ns with
  | nil =>
    rw [List.map_nil, planAll] at h
    cases h
  | cons n ns ih =>
    rw [List.map_cons, Named.toVisit] at h
    rcases planAll_cons_error h with hf | ⟨part, related, hf, hb⟩ | ⟨part, hf, hr⟩ |
      ⟨part, related, inner, hf, hb, hr⟩
    · exact ⟨n, List.mem_cons_self, .inl hf⟩
    · exact ⟨n, List.mem_cons_self, .inr ⟨part, related, hf, hb⟩⟩
    · obtain ⟨n', hn', ho⟩ := ih hr
      exact ⟨n', List.mem_cons_of_mem n hn', ho⟩
    · obtain ⟨n', hn', ho⟩ := ih hr
      exact ⟨n', List.mem_cons_of_mem n hn', ho⟩

/-- A scope fails in one of its fields or below one. -/
theorem exists_named_of_plan {s : Scope} {err : CompileError}
    (h : plan schema codec e s = .error err) :
    ∃ n ∈ s.named, planField schema codec e n.field n.clause n.order = .error err ∨
      ∃ part related,
        planField schema codec e n.field n.clause n.order = .ok (part, some related) ∧
        plan schema codec related n.below = .error err := by
  rw [plan, Visit.ofScope_eq_map] at h
  exact exists_mem_of_planAll h

end

/-! Placing -/

namespace Plan

variable {α : Type}

/-- Gives each join an alias, those of the scope below it after its own. -/
def place : Plan α → Aliases → Plan String × Aliases
  | .done, al => (.done, al)
  | .field part rest, al => (.field part (rest.place al).1, (rest.place al).2)
  | .join part related _ below rest, al =>
    let own := al.allocate related.table
    let inner := below.place own.2
    let others := rest.place inner.2
    (.join part related own.1 inner.1 others.1, others.2)

/-- The labels in the order of the joins. -/
def labels : Plan α → List α
  | .done => []
  | .field _ rest => rest.labels
  | .join _ _ l below rest => l :: (below.labels ++ rest.labels)

end Plan

/-- An alias and the entity whose table it stands for. -/
structure Binding where
  asName : String
  entity : Entity

def Binding.table (b : Binding) : Table := ⟨b.entity.table, b.entity.schema, some b.asName⟩

/-- The join of an entity's table on a key column. -/
def relatedJoin (asName key : String) (related : Entity) (relatedName : String) : Join :=
  ⟨⟨related.table, related.schema, some relatedName⟩,
    .compare .eq (.column (some asName) key) (.column (some relatedName) related.primaryKey)⟩

namespace Part

/-- The predicate, if there is one, on the column of the table with this alias. -/
def predicates (p : Part) (asName : String) : List Expr :=
  p.predicate.toList.map (Expr.qualify asName)

def orderTerms (p : Part) (asName : String) : List OrderTerm :=
  p.order.toList.map fun d => ⟨.column (some asName) p.column, d⟩

end Part

namespace Plan

/-! What a placed plan, below a table with the alias `asName`, adds to a query. -/

def joins : Plan String → String → List Join
  | .done, _ => []
  | .field _ rest, asName => rest.joins asName
  | .join part related l below rest, asName =>
    relatedJoin asName part.column related l :: (below.joins l ++ rest.joins asName)

/-- The entity behind each alias of a plan, in the order of the joins. -/
def bindings : Plan String → List Binding
  | .done => []
  | .field _ rest => rest.bindings
  | .join _ related l below rest => ⟨l, related⟩ :: (below.bindings ++ rest.bindings)

theorem asNames_bindings (p : Plan String) : p.bindings.map Binding.asName = p.labels := by
  induction p with
  | done => rfl
  | field part rest ih => exact ih
  | join part related l below rest ihb ihr =>
    rw [bindings, List.map_cons, List.map_append, ihb, ihr, labels]

/-- The tables that a plan joins are those of its bindings. -/
theorem tables_joins (p : Plan String) (asName : String) :
    (p.joins asName).map (·.table) = p.bindings.map Binding.table := by
  induction p generalizing asName with
  | done => rfl
  | field part rest ih => exact ih asName
  | join part related l below rest ihb ihr =>
    rw [joins, List.map_cons, List.map_append, ihb, ihr, bindings, List.map_cons, List.map_append]
    rfl

theorem referenceNames_joins (p : Plan String) (asName : String) :
    (p.joins asName).map (fun j => j.table.referenceName) = p.labels := by
  have h := congrArg (List.map Table.referenceName) (p.tables_joins asName)
  rw [List.map_map, List.map_map] at h
  rw [← p.asNames_bindings]
  exact h

def predicates : Plan String → String → List Expr
  | .done, _ => []
  | .field part rest, asName => part.predicates asName ++ rest.predicates asName
  | .join part _ l below rest, asName =>
    part.predicates asName ++ (below.predicates l ++ rest.predicates asName)

def orderTerms : Plan String → String → List OrderTerm
  | .done, _ => []
  | .field part rest, asName => part.orderTerms asName ++ rest.orderTerms asName
  | .join part _ l below rest, asName =>
    part.orderTerms asName ++ (below.orderTerms l ++ rest.orderTerms asName)

def addTo (p : Plan String) (asName : String) (q : Query) : Query :=
  { q with
    joins := q.joins ++ p.joins asName
    predicates := q.predicates ++ p.predicates asName
    order := q.order ++ p.orderTerms asName }

end Plan

end EntityQuery.Compile
