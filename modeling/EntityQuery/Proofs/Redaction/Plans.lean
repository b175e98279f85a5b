import EntityQuery.Proofs.Compile.Run
import EntityQuery.Proofs.Redaction.Predicates

/-!
Plans without the content of their literals. What is planned for a scope with some codec is planned
for the redacted scope with the blank one, up to redaction; and there is only one plan for a scope.
So scopes that look the same redacted have plans that do, whatever codecs they were planned with.
-/

namespace EntityQuery

open EntityQuery.Sql (Expr Literal Query)

namespace Compile

def Part.redact (p : Part) : Part := { p with predicate := p.predicate.map Expr.redact }

/-- The plan with its predicates redacted. -/
def Plan.redact {α : Type} : Plan α → Plan α
  | .done => .done
  | .field part rest => .field part.redact rest.redact
  | .join part related l below rest => .join part.redact related l below.redact rest.redact

section

variable {schema : Schema} {encode : Value → Except CodecError Literal} {e : Entity}

theorem planField_redact {n : Named} {part : Part} {related : Option Entity}
    (h : planField schema (Codec.elementwise encode).guarded e n.field n.clause n.order =
      .ok (part, related)) :
    planField schema .blank e n.redact.field n.redact.clause n.redact.order =
      .ok (part.redact, related) := by
  have hg : goesOn n.clause.redact n.order = goesOn n.clause n.order := by
    rw [goesOn, goesOn, Clause.isNested_redact]
  have hf :=
    fieldPlan_planField schema (Codec.elementwise encode).guarded e n.field n.clause n.order
  rw [h] at hf
  simp only [Named.redact]
  cases hf with
  | plain hc hr hp ho =>
    simp only [planField, hc, hr, redacts_plainPredicate _ _ hp, ho]
    rfl
  | key hc hr hp hn =>
    simp only [planField, hc, hr, redacts_keyPredicate _ _ hp, hg, hn]
    rfl
  | related hc hr hp hn ht =>
    simp only [planField, hc, hr, redacts_keyPredicate _ _ hp, hg, hn, ht]
    rfl

theorem Planned.redact {ns : List Named} {p : Plan Unit}
    (h : Planned schema (Codec.elementwise encode).guarded e ns p) :
    Planned schema .blank e (ns.map Named.redact) p.redact := by
  induction h with
  | done => exact .done
  | field hf hr ih => exact .field (planField_redact hf) ih
  | join hf hb hr ihb ih =>
    rw [← Scope.named_redact, ← Named.below_redact] at ihb
    exact .join (planField_redact hf) ihb ih

/-- A scope has one plan. -/
theorem Planned.unique {codec : Codec} {ns : List Named} {p p' : Plan Unit}
    (h : Planned schema codec e ns p) (h' : Planned schema codec e ns p') : p = p' := by
  induction h generalizing p' with
  | done =>
    cases h'
    rfl
  | field hf hr ih =>
    cases h' with
    | field hf' hr' =>
      cases hf.symm.trans hf'
      rw [ih hr']
    | join hf' hb' hr' => cases hf.symm.trans hf'
  | join hf hb hr ihb ih =>
    cases h' with
    | field hf' hr' => cases hf.symm.trans hf'
    | join hf' hb' hr' =>
      cases hf.symm.trans hf'
      rw [ihb hb', ih hr']

/-- Scopes that are equal once redacted have plans that are. -/
theorem redact_plan_congr {encode' : Value → Except CodecError Literal} {s s' : Scope}
    {p p' : Plan Unit} (hs : s.redact = s'.redact)
    (h : plan schema (Codec.elementwise encode).guarded e s = .ok p)
    (h' : plan schema (Codec.elementwise encode').guarded e s' = .ok p') :
    p.redact = p'.redact := by
  have hp := (planned_of_plan s h).redact
  have hp' := (planned_of_plan s' h').redact
  rw [← Scope.named_redact] at hp hp'
  rw [hs] at hp
  exact hp.unique hp'

end

/-! Queries of plans -/

/-- Aliases do not depend on predicates. -/
theorem Plan.place_redact (p : Plan Unit) (al : Aliases) :
    p.redact.place al = ((p.place al).1.redact, (p.place al).2) := by
  induction p generalizing al with
  | done => rfl
  | field part rest ih => simp only [redact, place, ih]
  | join part related l below rest ihb ihr => simp only [redact, place, ihb, ihr]

theorem Plan.joins_redact (p : Plan String) (asName : String) :
    p.redact.joins asName = p.joins asName := by
  induction p generalizing asName with
  | done => rfl
  | field part rest ih => exact ih asName
  | join part related l below rest ihb ihr =>
    rw [redact, joins, joins, ihb, ihr]
    rfl

theorem Plan.located_redact (p : Plan String) (asName : String) :
    p.redact.located asName = (p.located asName).map fun x => (x.1.redact, x.2) := by
  induction p generalizing asName with
  | done => rfl
  | field part rest ih => rw [redact, located, located, ih, List.map_cons]
  | join part related l below rest ihb ihr =>
    rw [redact, located, located, ihb, ihr, List.map_cons, List.map_append]

theorem Plan.orderTerms_redact (p : Plan String) (asName : String) :
    p.redact.orderTerms asName = p.orderTerms asName := by
  rw [orderTerms_eq, orderTerms_eq, located_redact, List.flatMap_map]
  rfl

theorem Part.predicates_redact (p : Part) (asName : String) :
    p.redact.predicates asName = (p.predicates asName).map Expr.redact := by
  obtain ⟨field, column, - | e, order⟩ := p
  · rfl
  · simp [predicates, redact, Expr.qualify_redact]

theorem Plan.predicates_redact (p : Plan String) (asName : String) :
    p.redact.predicates asName = (p.predicates asName).map Expr.redact := by
  rw [predicates_eq, predicates_eq, located_redact, List.flatMap_map, List.map_flatMap]
  simp only [Part.predicates_redact]

end Compile

/-- The query with the literals of its predicates redacted. -/
def Sql.Query.redact (q : Query) : Query := { q with predicates := q.predicates.map Expr.redact }

namespace Compile

theorem Plan.query_redact (p : Plan Unit) (e : Entity) (asName : String) :
    (p.redact.placed e).query e asName = ((p.placed e).query e asName).redact := by
  simp only [placed, place_redact, query, Query.redact, joins_redact, predicates_redact,
    orderTerms_redact]

theorem redact_addPage (q : Query) (limit : UInt64) (offset : Option UInt64) :
    (addPage q limit offset).redact = addPage q.redact limit offset := by
  cases offset <;> rfl

end Compile

open Compile

/-- Specs of the same shape are compiled to queries that differ only in the literals of their
predicates, whatever literals the codecs give. -/
theorem Spec.redact_toQuery_congr {spec spec' : Spec} {schema : Schema}
    {encode encode' : Value → Except CodecError Literal} {fallbackLimit : UInt64} {entity : String}
    {q q' : Query} (hs : spec.SameShape spec')
    (h : spec.toQuery schema (.elementwise encode) fallbackLimit entity = .ok q)
    (h' : spec'.toQuery schema (.elementwise encode') fallbackLimit entity = .ok q') :
    q.redact = q'.redact := by
  obtain ⟨e, p, limit, offset, hl, ho, he, hp, rfl⟩ := Spec.exists_plan_of_toQuery h
  obtain ⟨e', p', limit', offset', hl', ho', he', hp', rfl⟩ := Spec.exists_plan_of_toQuery h'
  cases he.symm.trans he'
  obtain ⟨hfilter, horder, hlimit, hoffset⟩ := Spec.sameShape_iff.1 hs
  have hscope : Scope.redact ⟨spec.filter, spec.order⟩ =
      Scope.redact ⟨spec'.filter, spec'.order⟩ := by
    rw [Scope.redact, Scope.redact, hfilter, horder]
  rw [hlimit] at hl
  rw [hoffset] at ho
  cases hl.symm.trans hl'
  cases ho.symm.trans ho'
  rw [redact_addPage, redact_addPage, ← Plan.query_redact, ← Plan.query_redact,
    redact_plan_congr hscope hp hp']

end EntityQuery
