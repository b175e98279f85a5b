import EntityQuery.Proofs.Compile.Bindings
import EntityQuery.Proofs.Compile.Branches
import EntityQuery.Proofs.Spelling.Clauses

/-!
Plans of respelled filters. Once predicates are settled and fields that add nothing are left out, a
filter is planned as a respelled one is, or fails with the same error, whatever it is ordered by.
-/

namespace EntityQuery.Compile

open EntityQuery.Sql (Expr Literal)

/-! Settled plans -/

def Part.settled (p : Part) : Part := { p with predicate := p.predicate.map Expr.settled }

/-- The part adds nothing to a query. -/
def Part.isIdle (p : Part) : Bool := p.predicate.isNone && p.order.isNone

theorem Part.isIdle_settled (p : Part) : p.settled.isIdle = p.isIdle := by
  simp [isIdle, settled]

/-- The plan with its predicates settled and without the fields that add nothing. -/
def Plan.settled {α : Type} : Plan α → Plan α
  | .done => .done
  | .field part rest => if part.isIdle then rest.settled else .field part.settled rest.settled
  | .join part related l below rest => .join part.settled related l below.settled rest.settled

namespace Branch

def settled (b : Branch) : Branch :=
  ⟨b.part.settled, b.joined.map fun x => (x.1, x.2.settled)⟩

/-- The branch adds nothing to a query. -/
def isIdle (b : Branch) : Bool := b.joined.isNone && b.part.isIdle

/-- The settled plan with this branch before the others, unless it is idle. -/
def beforeSettled (b : Branch) (rest : Plan Unit) : Plan Unit :=
  if b.isIdle then rest else b.before rest

theorem settled_before (b : Branch) (rest : Plan Unit) :
    (b.before rest).settled = b.settled.beforeSettled rest.settled := by
  obtain ⟨part, - | ⟨related, below⟩⟩ := b
  · simp [before, settled, beforeSettled, isIdle, Plan.settled, Part.isIdle_settled]
  · rfl

end Branch

section

variable (schema : Schema) (codec : Codec) (e : Entity)

/-- What is planned for the fields, settled. -/
def outline (ns : List Named) : Except CompileError (Plan Unit) :=
  (planAll schema codec e (ns.map Named.toVisit)).map Plan.settled

/-- The settled branch of a field. -/
def Named.outline (n : Named) : Except CompileError Branch :=
  (n.branch schema codec e).map Branch.settled

/-- What a field adds by itself, settled, and the entity whose table it joins. -/
def settledField (n : Named) : Except CompileError (Part × Option Entity) :=
  (planField schema codec e n.field n.clause n.order).map (Prod.map Part.settled id)

end

section

variable {schema : Schema} {codec : Codec} {e : Entity}

theorem outline_named (s : Scope) :
    outline schema codec e s.named = (plan schema codec e s).map Plan.settled := by
  rw [outline, plan, Visit.ofScope_eq_map]

theorem outline_cons (n : Named) (ns : List Named) :
    outline schema codec e (n :: ns) = do
      let b ← n.outline schema codec e
      return b.beforeSettled (← outline schema codec e ns) := by
  rw [outline, outline, Named.outline, List.map_cons, planAll_cons_toVisit]
  cases n.branch schema codec e with
  | error err => rfl
  | ok b =>
    cases planAll schema codec e (ns.map Named.toVisit) with
    | error err => rfl
    | ok rest => exact congrArg Except.ok (b.settled_before rest)

/-- The settled branch of a field is what it adds, and what is planned below, settled. -/
theorem Named.outline_eq (n : Named) :
    n.outline schema codec e = do
      match ← settledField schema codec e n with
      | (part, none) => return ⟨part, none⟩
      | (part, some related) =>
        return ⟨part, some (related, ← Compile.outline schema codec related n.below.named)⟩ := by
  rw [outline, branch, settledField]
  cases planField schema codec e n.field n.clause n.order with
  | error err => rfl
  | ok r =>
    obtain ⟨part, - | related⟩ := r
    · rfl
    · simp only [outline_named, Except.map, bind, Except.bind, Prod.map, id]
      cases plan schema codec related n.below <;> rfl

theorem outline_cons_congr {n n' : Named} {ns ns' : List Named}
    (hn : n.outline schema codec e = n'.outline schema codec e)
    (hns : outline schema codec e ns = outline schema codec e ns') :
    outline schema codec e (n :: ns) = outline schema codec e (n' :: ns') := by
  rw [outline_cons, outline_cons, hn, hns]

/-- Nothing is planned for a field that is there and of which nothing is asked. -/
theorem outline_cons_absent {field : String} (hf : field ∈ e.fields) (ns : List Named) :
    outline schema codec e (⟨field, .absent, none⟩ :: ns) = outline schema codec e ns := by
  have hn : ∃ b, Named.outline schema codec e ⟨field, .absent, none⟩ = .ok b ∧
      b.isIdle = true := by
    cases hc : e.column? field with
    | none => exact absurd hf (Entity.column?_eq_none_iff.1 hc)
    | some c =>
      refine ⟨⟨⟨field, c.column, none, none⟩, none⟩, ?_, rfl⟩
      cases hr : c.references <;>
        simp only [Named.outline_eq, settledField, planField, hc, hr] <;> rfl
  obtain ⟨b, hn, hidle⟩ := hn
  rw [outline_cons, hn]
  cases outline schema codec e ns with
  | error err => rfl
  | ok rest => exact congrArg Except.ok (if_pos hidle)

/-! Single fields -/

/-- Whatever is asked by two synonyms, the fields are planned alike. -/
theorem settledField_synonym {encode : Value → Except CodecError Literal} {field : String}
    {clause clause' : Clause} (h : clause.Synonym e field clause') (order : Option SortClause) :
    settledField schema (Codec.elementwise encode).guarded e ⟨field, clause, order⟩ =
      settledField schema (Codec.elementwise encode).guarded e ⟨field, clause', order⟩ := by
  obtain ⟨hn, hn'⟩ := isNested_synonym h
  simp only [settledField, planField]
  cases hc : e.column? field with
  | none => rfl
  | some c =>
    cases hr : c.references with
    | some target => simp only [hr, keyPredicate_synonym h, goesOn, hn, hn']
    | none =>
      have hp := plainPredicate_synonym h hc hr encode ⟨e.name, field⟩ c.column
      simp only [hr]
      generalize plainPredicate _ _ _ clause = x at hp ⊢
      generalize plainPredicate _ _ _ clause' = x' at hp ⊢
      cases x with
      | error err =>
        cases x' <;> cases hp
        rfl
      | ok p =>
        cases x' with
        | error err => cases hp
        | ok p' =>
          have hsettled := Except.ok.inj hp
          cases checkPlainOrder ⟨e.name, field⟩ order with
          | error err => rfl
          | ok u =>
            simp only [Except.map, bind, Except.bind, pure, Except.pure, Prod.map, Part.settled,
              hsettled]

theorem outline_synonym {encode : Value → Except CodecError Literal} {field : String}
    {clause clause' : Clause} (h : clause.Synonym e field clause') (order : Option SortClause) :
    Named.outline schema (Codec.elementwise encode).guarded e ⟨field, clause, order⟩ =
      Named.outline schema (Codec.elementwise encode).guarded e ⟨field, clause', order⟩ := by
  have hbelow : Named.below ⟨field, clause, order⟩ = Named.below ⟨field, clause', order⟩ := by
    cases h <;> rfl
  rw [Named.outline_eq, Named.outline_eq, settledField_synonym h, hbelow]

/-- What is asked below a key is planned for the entity that the key references, and no other. -/
theorem outline_nested {field : String} {f f' : Filter} (order : Option SortClause)
    (h : ∀ related, e.related? schema field = some related →
      outline schema codec related (Scope.named ⟨f, SortClause.orderBelow order⟩) =
        outline schema codec related (Scope.named ⟨f', SortClause.orderBelow order⟩)) :
    Named.outline schema codec e ⟨field, .nested f, order⟩ =
      Named.outline schema codec e ⟨field, .nested f', order⟩ := by
  -- a field is planned without a look at the filter below it
  have hfield : planField schema codec e field (.nested f) order =
      planField schema codec e field (.nested f') order := rfl
  have hsettled : settledField schema codec e ⟨field, .nested f, order⟩ =
      settledField schema codec e ⟨field, .nested f', order⟩ := by
    rw [settledField, settledField, hfield]
  rw [Named.outline_eq, Named.outline_eq, ← hsettled, settledField]
  cases hp : planField schema codec e field (.nested f) order with
  | error err => rfl
  | ok r =>
    obtain ⟨part, - | related⟩ := r
    · rfl
    · obtain ⟨c, hc, -, href⟩ := column_of_planField hp
      obtain ⟨target, hr, ht⟩ := href related rfl
      rw [Entity.column?] at hc
      have hrelated : e.related? schema field = some related := by
        simp [Entity.related?, hc, hr, ht]
      have hbelow := h related hrelated
      simp only [Except.map, bind, Except.bind, Prod.map, id, Named.below, Clause.filterBelow,
        hbelow]

/-! Filters -/

/-- The fields that only the filter names. -/
def unsorted (fields : List String) (es : List (String × Clause)) : List Named :=
  (es.filter fun x => x.1 ∉ fields).map fun x => ⟨x.1, x.2, none⟩

theorem unsorted_cons (fields : List String) (x : String × Clause)
    (es : List (String × Clause)) :
    unsorted fields (x :: es) =
      if x.1 ∈ fields then unsorted fields es else ⟨x.1, x.2, none⟩ :: unsorted fields es := by
  by_cases hx : x.1 ∈ fields <;> simp [unsorted, hx]

variable (schema codec e) in
/-- The entries of two filters are planned alike, field by field with any order, and those that are
not sorted by together. -/
structure SameOutline (es es' : List (String × Clause)) : Prop where
  sorted : ∀ field order,
    Named.outline schema codec e ⟨field, Visit.clauseOf field es, order⟩ =
      Named.outline schema codec e ⟨field, Visit.clauseOf field es', order⟩
  unsorted : ∀ fields,
    outline schema codec e (unsorted fields es) = outline schema codec e (unsorted fields es')

theorem SameOutline.named {es es' : List (String × Clause)}
    (h : SameOutline schema codec e es es') (order : SortOrder) :
    outline schema codec e (Scope.named ⟨⟨es⟩, order⟩) =
      outline schema codec e (Scope.named ⟨⟨es'⟩, order⟩) := by
  suffices ∀ (os : List (String × SortClause)) {ns ns' : List Named},
      outline schema codec e ns = outline schema codec e ns' →
      outline schema codec e (os.map (fun o => ⟨o.1, Visit.clauseOf o.1 es, some o.2⟩) ++ ns) =
        outline schema codec e (os.map (fun o => ⟨o.1, Visit.clauseOf o.1 es', some o.2⟩) ++ ns')
    from this order.entries (h.unsorted order.fields)
  intro os ns ns' hns
  induction os with
  | nil => exact hns
  | cons o os ih => exact outline_cons_congr (h.sorted o.1 (some o.2)) ih

/-- A change in the first entry shows in its own field only. -/
theorem SameOutline.head {field : String} {c c' : Clause}
    (h : ∀ order, Named.outline schema codec e ⟨field, c, order⟩ =
      Named.outline schema codec e ⟨field, c', order⟩) (es : List (String × Clause)) :
    SameOutline schema codec e ((field, c) :: es) ((field, c') :: es) where
  sorted f order := by
    rw [Visit.clauseOf, Visit.clauseOf, List.lookup_cons, List.lookup_cons]
    cases hf : f == field with
    | false => rfl
    | true =>
      rw [eq_of_beq hf]
      exact h order
  unsorted fields := by
    rw [unsorted_cons, unsorted_cons]
    split
    · rfl
    · exact outline_cons_congr (h none) rfl

theorem SameOutline.tail {es es' : List (String × Clause)}
    (h : SameOutline schema codec e es es') (x : String × Clause) :
    SameOutline schema codec e (x :: es) (x :: es') where
  sorted f order := by
    rw [Visit.clauseOf, Visit.clauseOf, List.lookup_cons, List.lookup_cons]
    cases f == x.1 with
    | false => exact h.sorted f order
    | true => rfl
  unsorted fields := by
    rw [unsorted_cons, unsorted_cons]
    split
    · exact h.unsorted fields
    · exact outline_cons_congr rfl (h.unsorted fields)

/-- An entry that asks for nothing may be dropped: a field without an entry asks for nothing. -/
theorem SameOutline.absent {field : String} {es : List (String × Clause)} (hf : field ∈ e.fields)
    (hes : field ∉ es.map (·.1)) :
    SameOutline schema codec e ((field, .absent) :: es) es where
  sorted f order := by
    have hlookup : es.lookup field = none :=
      FieldMap.get?_eq_none_iff (m := ⟨es⟩) |>.2 hes
    rw [Visit.clauseOf, Visit.clauseOf, List.lookup_cons]
    cases hf : f == field with
    | false => rfl
    | true =>
      rw [eq_of_beq hf, hlookup]
      rfl
  unsorted fields := by
    rw [unsorted_cons]
    split
    · rfl
    · exact outline_cons_absent hf _

/-- Respelled filters are planned alike. -/
theorem sameOutline_of_respelled {encode : Value → Except CodecError Literal} {e : Entity}
    {es es' : List (String × Clause)} (h : Filter.Respelled schema e es es') :
    SameOutline schema (Codec.elementwise encode).guarded e es es' := by
  induction h with
  | refl es => exact ⟨fun _ _ => rfl, fun _ => rfl⟩
  | symm _ ih => exact ⟨fun f o => (ih.sorted f o).symm, fun fs => (ih.unsorted fs).symm⟩
  | trans _ _ ih ih' =>
    exact ⟨fun f o => (ih.sorted f o).trans (ih'.sorted f o),
      fun fs => (ih.unsorted fs).trans (ih'.unsorted fs)⟩
  | clause h es => exact .head (outline_synonym h) es
  | absent hf hes => exact .absent hf hes
  | nested _ es ih =>
    exact .head (fun order => outline_nested order fun related hr => (ih related hr).named _) es
  | cons entry _ ih => exact ih.tail entry

theorem settled_plan_of_respelled {f f' : Filter}
    (h : Filter.Respelled schema e f.entries f'.entries)
    (encode : Value → Except CodecError Literal) (order : SortOrder) :
    (plan schema (Codec.elementwise encode).guarded e ⟨f, order⟩).map Plan.settled =
      (plan schema (Codec.elementwise encode).guarded e ⟨f', order⟩).map Plan.settled := by
  rw [← outline_named, ← outline_named]
  exact (sameOutline_of_respelled h).named order

end

end EntityQuery.Compile
