import EntityQuery.Proofs.Acceptance.Demands
import EntityQuery.Proofs.Compile.Bindings
import EntityQuery.Proofs.Finite.Rendering
import EntityQuery.Proofs.Staff

/-!
Compiled queries can always be written, whatever the codec. A number that is not finite never gets
into a query: the demand whose operand the codec lowers to it fails and names it, unless something
before that demand has failed already.
-/

namespace EntityQuery

open EntityQuery.Decimal (Binary64)
open EntityQuery.Sql (Dialect Expr Literal Query)

namespace Compile

/-! Literals of queries -/

theorem finite_of_flat {column e : Expr} (hc : column.literals = []) (h : Flat column e) :
    ∀ l ∈ e.literals, l.Finite := by
  cases h with
  | isNull negated => simp [Expr.literals, hc]
  | compare op hl => simpa [Expr.literals, hc] using hl
  | @member ls hls =>
    have hm : (Expr.inList column (ls.map .literal)).literals = ls := by
      simp [Expr.literals, hc, Expr.literalsOfList_eq_flatMap, List.flatMap_map]
    rwa [hm]
  | never => simp [Expr.literals, Literal.Finite]

theorem literals_joins (p : Plan String) (asName : String) :
    ∀ j ∈ p.joins asName, j.condition.literals = [] := by
  intro j hj
  cases p.onColumns_of_mem_joins asName j hj
  rfl

theorem literals_orderTerms (p : Plan String) (asName : String) :
    ∀ t ∈ p.orderTerms asName, t.expr.literals = [] := by
  intro t ht
  obtain ⟨a, c, he⟩ := p.exists_column_of_mem_orderTerms asName t ht
  rw [he]
  rfl

theorem finite_predicates {p : Plan String} (hp : ∀ q ∈ p.parts, q.IsFlat) (asName : String) :
    ∀ e ∈ p.predicates asName, ∀ l ∈ e.literals, l.Finite := by
  intro e he
  obtain ⟨x, -, q, hq, rfl⟩ := Plan.exists_flat_of_mem_predicates hp he
  exact finite_of_flat rfl hq.qualify

/-- The literals of a compiled query are those of its predicates. -/
theorem finite_literals_toQuery {spec : Spec} {schema : Schema} {codec : Codec}
    {fallbackLimit : UInt64} {entity : String} {q : Query}
    (h : spec.toQuery schema codec fallbackLimit entity = .ok q) :
    ∀ l ∈ q.literals, l.Finite := by
  obtain ⟨e, p, limit, offset, -, -, -, hp, rfl⟩ := Spec.exists_plan_of_toQuery h
  have hflat : ∀ q ∈ (p.placed e).parts, q.IsFlat := (planned_of_plan _ hp).isFlat_place _
  intro l hl
  obtain ⟨x, hx, hl⟩ := List.mem_flatMap.1 hl
  simp only [Query.exprs, select_addPage, joins_addPage, predicates_addPage, order_addPage,
    List.mem_append, List.mem_map] at hx
  rcases hx with ((hx | ⟨j, hj, rfl⟩) | hx) | ⟨t, ht, rfl⟩
  · rw [List.mem_singleton.1 hx] at hl
    cases hl
  · rw [literals_joins _ _ j hj] at hl
    cases hl
  · exact finite_predicates hflat _ x hx l hl
  · rcases List.mem_append.1 ht with ht | ht
    · rw [literals_orderTerms _ _ t ht] at hl
      cases hl
    · rw [List.mem_singleton.1 ht] at hl
      cases hl

end Compile

/-! Operands -/

/-- The codec gives the literal for the operand, or for one of a list. -/
inductive Operand.Yields (codec : Codec) : Operand → Literal → Prop
  | scalar {v : Value} {l : Literal} (h : codec.lower v = .ok l) : Yields codec (.scalar v) l
  | list {vs : List Value} {ls : List Literal} {l : Literal} (h : codec.lowerAll vs = .ok ls)
    (hl : l ∈ ls) : Yields codec (.list vs) l

theorem Operand.Yields.not_lowers {codec : Codec} {o : Operand} {x : Binary64}
    (h : o.Yields codec (.float x)) (hx : x.isFinite = false) : ¬ o.Lowers codec := by
  intro hl
  cases h with
  | scalar h => exact hl.not_fails _ (.nonFinite h hx)
  | list h hm => exact hl.not_fails _ (.nonFiniteIn h hm hx)

/-- An operand that the codec gives literals for can only fail with one that is not finite. -/
theorem Operand.Fails.eq_nonFinite {codec : Codec} {o : Operand} {err : CodecError} {l : Literal}
    (h : o.Fails codec err) (hl : o.Yields codec l) :
    ∃ x, o.Yields codec (.float x) ∧ x.isFinite = false ∧ err = .nonFinite x := by
  cases h with
  | lower h =>
    cases hl with
    | scalar hl =>
      rw [h] at hl
      cases hl
  | lowerAll h =>
    cases hl with
    | list hl =>
      rw [h] at hl
      cases hl
  | nonFinite h hx => exact ⟨_, .scalar h, hx, rfl⟩
  | nonFiniteIn h hm hx => exact ⟨_, .list h hm, hx, rfl⟩

namespace Compile

/-- The operand that the column of a demand hands to the codec, if it takes the clause at all. -/
inductive Demand.Hands (d : Demand) : Operand → Prop
  | plain {c : Column} (hc : c ∈ d.entity.columns ∧ c.field = d.named.field)
    (hr : c.references = none) (hf : d.named.clause.FitsPlain) :
    Hands d d.named.clause.plainOperand
  | key {c : Column} {target : String} (hc : c ∈ d.entity.columns ∧ c.field = d.named.field)
    (hr : c.references = some target) (hf : d.named.clause.FitsKey) :
    Hands d d.named.clause.keyOperand

section

variable {codec : Codec} {site : Site} {fits : Prop} {misfits : Unsupported → Prop} {α : Type}

theorem Verdict.nonFinite {o : Operand} {r : Except CompileError α}
    (h : Verdict codec site fits misfits o r) (hm : ∀ u, ¬ misfits u) {x : Binary64}
    (ho : o.Yields codec (.float x)) (hx : x.isFinite = false) :
    ∃ y, o.Yields codec (.float y) ∧ y.isFinite = false ∧
      r = .error (.codec (.nonFinite y)) := by
  cases h with
  | taken hf hl a => exact absurd hl (ho.not_lowers hx)
  | unsupported hu => exact absurd hu (hm _)
  | refused hf hfails =>
    obtain ⟨y, hy, hinf, rfl⟩ := hfails.eq_nonFinite ho
    exact ⟨y, hy, hinf, rfl⟩

end

/-- A demand whose operand is lowered to a number that is not finite fails with such a number. -/
theorem Demand.meet_nonFinite (schema : Schema) {codec : Codec} {d : Demand} {o : Operand}
    {x : Binary64} (hd : d.Hands o) (ho : o.Yields codec (.float x)) (hx : x.isFinite = false) :
    ∃ y, o.Yields codec (.float y) ∧ y.isFinite = false ∧
      d.meet schema codec.guarded = .error (.codec (.nonFinite y)) := by
  cases hd with
  | @plain c hc hr hf =>
    have hv : Verdict codec ⟨d.entity.name, d.named.field⟩ _ _ _
        (plainPredicate codec.guarded _ (.column none c.column) d.named.clause) :=
      verdict_plainPredicate _ _
    obtain ⟨y, hy, hinf, hp⟩ := hv.nonFinite hf.not_misfits ho hx
    refine ⟨y, hy, hinf, ?_⟩
    simp only [meet, planField, Entity.column?_eq_some_iff.2 hc, hr, hp]
    rfl
  | @key c target hc hr hf =>
    have hv : Verdict codec ⟨d.entity.name, d.named.field⟩ _ _ _
        (keyPredicate codec.guarded _ (.column none c.column) d.named.clause) :=
      verdict_keyPredicate _ _
    obtain ⟨y, hy, hinf, hp⟩ := hv.nonFinite hf.not_misfits ho hx
    refine ⟨y, hy, hinf, ?_⟩
    simp only [meet, planField, Entity.column?_eq_some_iff.2 hc, hr, hp]
    rfl

end Compile

open Compile

/-! Specs -/

section

variable {spec : Spec} {schema : Schema} {codec : Codec} {fallbackLimit : UInt64} {entity : String}

/-- A compiled query has a text, so that only a spec without a query fails. -/
theorem Spec.compile_eq (d : Dialect) :
    (∃ q sql, spec.toQuery schema codec fallbackLimit entity = .ok q ∧ q.toSql d = .ok sql ∧
      spec.compile schema codec ⟨d, fallbackLimit⟩ entity = .ok ⟨sql, q, d⟩) ∨
    ∃ err, spec.toQuery schema codec fallbackLimit entity = .error err ∧
      spec.compile schema codec ⟨d, fallbackLimit⟩ entity = .error (.rejected err) := by
  cases hq : spec.toQuery schema codec fallbackLimit entity with
  | error err =>
    refine .inr ⟨err, rfl, ?_⟩
    rw [Spec.compile, hq]
    rfl
  | ok q =>
    obtain ⟨sql, hs⟩ := Sql.exists_toSql_of_finite d (finite_literals_toQuery hq)
    refine .inl ⟨q, sql, rfl, hs, ?_⟩
    rw [Spec.compile, hq]
    simp only [Except.mapError, bind, Except.bind, hs]
    rfl

/-- A number that is not finite is found out where it arises, if nothing has failed before. -/
theorem Spec.error_of_nonFinite {e : Entity} (he : schema entity = some e)
    {before after : List Demand} {d : Demand}
    (hsplit : Scope.demands schema e ⟨spec.filter, spec.order⟩ = before ++ d :: after)
    {o : Operand} {x : Binary64} (hd : d.Hands o) (ho : o.Yields codec (.float x))
    (hx : x.isFinite = false) :
    ∃ err, spec.toQuery schema codec fallbackLimit entity = .error err ∧
      ((∃ y, o.Yields codec (.float y) ∧ y.isFinite = false ∧ err = .codec (.nonFinite y)) ∨
        (∃ b ∈ before, FieldFault schema codec b.entity b.named err) ∨
        ∃ part n, Nat.pow 2 63 - 1 < n.toNat ∧ err = .pageOutOfRange part n) := by
  obtain ⟨y, hy, hinf, hfail⟩ := Demand.meet_nonFinite schema hd ho hx
  have hout := spec.outcome_toQuery schema codec fallbackLimit entity
  generalize spec.toQuery schema codec fallbackLimit entity = r at hout
  cases hout with
  | limitRefused hl =>
    obtain ⟨hlt, rfl⟩ := checkRowCount_error hl
    exact ⟨_, rfl, .inr (.inr ⟨_, _, hlt, rfl⟩)⟩
  | offsetRefused hl ho =>
    obtain ⟨n, -, hlt, rfl⟩ := checkOffset_error ho
    exact ⟨_, rfl, .inr (.inr ⟨_, _, hlt, rfl⟩)⟩
  | unknownEntity _ _ hnone =>
    rw [he] at hnone
    cases hnone
  | refused _ _ he' hp =>
    rw [he] at he'
    cases he'
    have hfirst := firstFailure_of_plan _ hp
    rw [hsplit] at hfirst
    refine ⟨_, rfl, ?_⟩
    rcases hfirst.of_split hfail with rfl | ⟨b, hb, herr⟩
    · exact .inl ⟨y, hy, hinf, rfl⟩
    · exact .inr (.inl ⟨b, hb, fieldFault_of_planField herr⟩)
  | compiled _ _ he' hp =>
    rw [he] at he'
    cases he'
    have hmet := isMet_of_plan _ hp d (by simp [hsplit])
    exact absurd hfail hmet.ne_error

end

/-- Whatever the codec, a compiled query holds finite numbers only and has a text in every dialect.
A number that is not finite and that the codec gives for an operand ends the compilation: its error
names a number of that operand, or is that of an earlier demand or of the page. -/
theorem Spec.finite_toQuery (spec : Spec) (schema : Schema) (codec : Codec)
    (fallbackLimit : UInt64) (entity : String) :
    (∀ q, spec.toQuery schema codec fallbackLimit entity = .ok q → ∀ l ∈ q.literals, l.Finite) ∧
    (∀ d : Dialect,
      (∃ q sql, spec.toQuery schema codec fallbackLimit entity = .ok q ∧ q.toSql d = .ok sql ∧
        spec.compile schema codec ⟨d, fallbackLimit⟩ entity = .ok ⟨sql, q, d⟩) ∨
      ∃ err, spec.toQuery schema codec fallbackLimit entity = .error err ∧
        spec.compile schema codec ⟨d, fallbackLimit⟩ entity = .error (.rejected err)) ∧
    ∀ e, schema entity = some e → ∀ before d after,
      Scope.demands schema e ⟨spec.filter, spec.order⟩ = before ++ d :: after →
      ∀ o x, d.Hands o → o.Yields codec (.float x) → x.isFinite = false →
      ∃ err, spec.toQuery schema codec fallbackLimit entity = .error err ∧
        ((∃ y, o.Yields codec (.float y) ∧ y.isFinite = false ∧ err = .codec (.nonFinite y)) ∨
          (∃ b ∈ before, FieldFault schema codec b.entity b.named err) ∨
          ∃ part n, Nat.pow 2 63 - 1 < n.toNat ∧ err = .pageOutOfRange part n) :=
  ⟨fun _ hq => finite_literals_toQuery hq, fun d => Spec.compile_eq d,
    fun _ he _ _ _ hsplit _ _ hd ho hx => Spec.error_of_nonFinite he hsplit hd ho hx⟩

namespace Staff

/-- People whose manager is called O'Hara. -/
def managedSpec : Spec where
  filter := ⟨[("manager", .nested ⟨[("name", .value (.string "O'Hara"))]⟩)]⟩

/-- A codec that gives nothing but NaN. -/
def nanCodec : Codec := .elementwise fun _ => .ok (.float .nan)

def managerDemand : Demand :=
  ⟨person, "manager", .nested ⟨[("name", .value (.string "O'Hara"))]⟩, none⟩

def nameDemand : Demand := ⟨person, "name", .value (.string "O'Hara"), none⟩

theorem demands_managedSpec :
    Scope.demands schema person ⟨managedSpec.filter, managedSpec.order⟩ =
      [managerDemand] ++ nameDemand :: [] := by
  have hname : Scope.demands schema person ⟨⟨[("name", .value (.string "O'Hara"))]⟩, .empty⟩ =
      [nameDemand] := by
    rw [Scope.demands_eq]
    rfl
  rw [Scope.demands_eq]
  exact congrArg (managerDemand :: ·) ((List.append_nil _).trans hname)

theorem finite_managedSpec :
    (spec.toQuery schema .plain 10 "Person" = .ok query ∧ ∀ l ∈ query.literals, l.Finite) ∧
    schema "Person" = some person ∧
    Scope.demands schema person ⟨managedSpec.filter, managedSpec.order⟩ =
      [managerDemand] ++ nameDemand :: [] ∧
    nameDemand.Hands (.scalar (.string "O'Hara")) ∧
    (Operand.scalar (.string "O'Hara")).Yields nanCodec (.float .nan) ∧
    Binary64.nan.isFinite = false ∧
    ∃ err, managedSpec.toQuery schema nanCodec 10 "Person" = .error err ∧
      ((∃ y, (Operand.scalar (.string "O'Hara")).Yields nanCodec (.float y) ∧
          y.isFinite = false ∧ err = .codec (.nonFinite y)) ∨
        (∃ b ∈ [managerDemand], FieldFault schema nanCodec b.entity b.named err) ∨
        ∃ part n, Nat.pow 2 63 - 1 < n.toNat ∧ err = .pageOutOfRange part n) := by
  have hhands : nameDemand.Hands (.scalar (.string "O'Hara")) :=
    .plain (c := ⟨"name", "full_name", none⟩) (by decide) rfl (.value _)
  have hyields : (Operand.scalar (.string "O'Hara")).Yields nanCodec (.float .nan) := .scalar rfl
  obtain ⟨hquery, -, -⟩ := Spec.finite_toQuery spec schema .plain 10 "Person"
  obtain ⟨-, -, hfound⟩ := Spec.finite_toQuery managedSpec schema nanCodec 10 "Person"
  exact ⟨⟨toQuery_spec, hquery _ toQuery_spec⟩, rfl, demands_managedSpec, hhands, hyields, rfl,
    hfound person rfl _ _ _ demands_managedSpec _ _ hhands hyields rfl⟩

end Staff

end EntityQuery
