import EntityQuery.Proofs.Rendering.Reader
import EntityQuery.Proofs.Spelling.Plans

/-!
Specs whose filters differ only in their spelling. Whatever the dialect, they come to the same text,
or fail with the same error.
-/

namespace EntityQuery

open EntityQuery.Sql (Expr Literal Query)

theorem Sql.Expr.settled_qualify (asName : String) (e : Expr) :
    (e.qualify asName).settled = e.settled.qualify asName := by
  induction e using qualify.induct with
  | case1 c => rfl
  | case2 op l r ih => simp only [qualify, settled, ih]
  | case3 e vs ih =>
    simp only [qualify, settled]
    split
    · rfl
    · rw [qualify, ih]
  | case4 e negated ih => simp only [qualify, settled, ih]
  | case5 e hcolumn hcompare hinList hisNull =>
    cases e with
    | column t c =>
      cases t with
      | none => exact absurd rfl (hcolumn c)
      | some t => rfl
    | compare op l r => exact absurd rfl (hcompare op l r)
    | inList e vs => exact absurd rfl (hinList e vs)
    | isNull e negated => exact absurd rfl (hisNull e negated)
    | _ => rfl

namespace Compile

/-! Queries of settled plans -/

/-- Aliases do not depend on predicates, nor on fields that join nothing. -/
theorem Plan.place_settled (p : Plan Unit) (al : Aliases) :
    p.settled.place al = ((p.place al).1.settled, (p.place al).2) := by
  induction p generalizing al with
  | done => rfl
  | field part rest ih =>
    simp only [settled, place]
    split
    · exact ih al
    · simp only [place, ih]
  | join part related l below rest ihb ihr => simp only [settled, place, ihb, ihr]

theorem Plan.joins_settled (p : Plan String) (asName : String) :
    p.settled.joins asName = p.joins asName := by
  induction p generalizing asName with
  | done => rfl
  | field part rest ih =>
    rw [settled]
    split <;> exact ih asName
  | join part related l below rest ihb ihr =>
    rw [settled, joins, joins, ihb, ihr]
    rfl

theorem Part.predicates_settled (p : Part) (asName : String) :
    p.settled.predicates asName = (p.predicates asName).map Expr.settled := by
  obtain ⟨field, column, - | e, order⟩ := p
  · rfl
  · simp [predicates, settled, Expr.settled_qualify]

theorem Part.idle_iff {p : Part} :
    p.isIdle = true ↔ p.predicate = none ∧ p.order = none := by
  simp [isIdle]

theorem Plan.predicates_settled (p : Plan String) (asName : String) :
    p.settled.predicates asName = (p.predicates asName).map Expr.settled := by
  induction p generalizing asName with
  | done => rfl
  | field part rest ih =>
    rw [settled, predicates, List.map_append, ← ih]
    split
    · rename_i hidle
      simp [Part.predicates, (Part.idle_iff.1 hidle).1]
    · rw [predicates, Part.predicates_settled]
  | join part related l below rest ihb ihr =>
    rw [settled, predicates, predicates, List.map_append, List.map_append, ← ihb, ← ihr,
      Part.predicates_settled]

theorem Plan.orderTerms_settled (p : Plan String) (asName : String) :
    p.settled.orderTerms asName = p.orderTerms asName := by
  induction p generalizing asName with
  | done => rfl
  | field part rest ih =>
    rw [settled, orderTerms, ← ih]
    split
    · rename_i hidle
      simp [Part.orderTerms, (Part.idle_iff.1 hidle).2]
    · rfl
  | join part related l below rest ihb ihr =>
    rw [settled, orderTerms, orderTerms, ihb, ihr]
    rfl

theorem Plan.settled_query (p : Plan Unit) (e : Entity) (asName : String) :
    ((p.placed e).query e asName).settled = (p.settled.placed e).query e asName := by
  have horder : ∀ t ∈ ((p.placed e).query e asName).order, ∃ a c, t.expr = .column (some a) c :=
    List.forall_mem_append.2
      ⟨exists_column_of_mem_orderTerms _ _, List.forall_mem_singleton.2 ⟨_, _, rfl⟩⟩
  rw [Query.settled_eq ⟨asName, rfl⟩ (onColumns_of_mem_joins _ _) horder]
  simp only [placed, place_settled, query, joins_settled, predicates_settled, orderTerms_settled]

theorem settled_addPage (q : Query) (limit : UInt64) (offset : Option UInt64) :
    (addPage q limit offset).settled = addPage q.settled limit offset := by
  cases offset <;> rfl

end Compile

open Compile

/-- The specs differ at most in the spelling of their filters. -/
structure Spec.Respelled (schema : Schema) (entity : String) (spec spec' : Spec) : Prop where
  filter : ∀ e, schema entity = some e →
    Filter.Respelled schema e spec.filter.entries spec'.filter.entries
  order : spec'.order = spec.order
  limit : spec'.limit = spec.limit
  offset : spec'.offset = spec.offset

section

variable {spec spec' : Spec} {schema : Schema} {entity : String}

/-- Respelled specs are compiled to queries that are equal once settled, or fail alike. -/
theorem Spec.settled_toQuery_congr (h : spec.Respelled schema entity spec')
    (encode : Value → Except CodecError Literal) (fallbackLimit : UInt64) :
    (spec.toQuery schema (.elementwise encode) fallbackLimit entity).map Query.settled =
      (spec'.toQuery schema (.elementwise encode) fallbackLimit entity).map Query.settled := by
  rw [Spec.toQuery_eq, Spec.toQuery_eq, h.order, h.limit, h.offset]
  cases checkRowCount .limit (spec.limit.getD fallbackLimit) with
  | error err => rfl
  | ok limit =>
    cases checkOffset spec.offset with
    | error err => rfl
    | ok offset =>
      cases he : schema entity with
      | none => rfl
      | some e =>
        have hp := settled_plan_of_respelled (h.filter e he) encode spec.order
        have hq (x : Except CompileError (Plan Unit)) :
            (x >>= fun p => (return addPage ((p.placed e).query e (sourceName e)) limit offset :
              Except CompileError Query)).map Query.settled =
            x.map Plan.settled >>= fun p =>
              return addPage ((p.placed e).query e (sourceName e)) limit offset := by
          cases x with
          | error err => rfl
          | ok p => exact congrArg Except.ok (by rw [settled_addPage, Plan.settled_query])
        calc _ = _ := hq _
          _ = _ := by rw [hp]
          _ = _ := (hq _).symm

/-- Respelled specs come to the same text in every dialect, or fail with the same error. -/
theorem Spec.sql_compile_congr (h : spec.Respelled schema entity spec')
    (encode : Value → Except CodecError Literal) (options : CompileOptions) :
    (spec.compile schema (.elementwise encode) options entity).map Compiled.sql =
      (spec'.compile schema (.elementwise encode) options entity).map Compiled.sql := by
  have hsql (x : Except CompileError Query) :
      (do
        let query ← x.mapError CompileFailure.rejected
        let sql ← (query.toSql options.dialect).mapError CompileFailure.unrenderable
        return ({ sql, query, dialect := options.dialect } : Compiled)).map Compiled.sql =
      (x.map Query.settled).mapError CompileFailure.rejected >>= fun query =>
        (query.toSql options.dialect).mapError CompileFailure.unrenderable := by
    cases x with
    | error err => rfl
    | ok q =>
      simp only [Except.map, Except.mapError, bind, Except.bind, Query.toSql_settled]
      cases q.toSql options.dialect <;> rfl
  rw [Spec.compile, Spec.compile, hsql, hsql, settled_toQuery_congr h]

end

namespace Staff

/-- People without a name whose manager's name is among none. -/
def unnamed : Spec where
  filter := ⟨[("name", .null), ("manager", .nested ⟨[("name", .list [])]⟩)]⟩

/-- The same in more words. -/
def unnamedInFull : Spec where
  filter := ⟨[("name", .compare .eq .null),
    ("manager", .nested ⟨[("name", .compare .inList (.list [])), ("mentor", .absent)]⟩)]⟩

theorem respelled_unnamed : Spec.Respelled schema "Person" unnamedInFull unnamed where
  filter e he := by
    cases he
    refine .trans (.clause .eqNull _) (.cons _ (.nested (fun related hr => ?_) []))
    cases hr
    exact .trans (.clause (.inList []) _) (.cons _ (.absent (by decide) (by decide)))
  order := rfl
  limit := rfl
  offset := rfl

theorem sql_unnamed :
    Spec.Respelled schema "Person" unnamedInFull unnamed ∧
    (unnamedInFull.compile schema (.elementwise Codec.lowerPlain) {} "Person").map Compiled.sql =
      (unnamed.compile schema (.elementwise Codec.lowerPlain) {} "Person").map Compiled.sql :=
  ⟨respelled_unnamed, Spec.sql_compile_congr respelled_unnamed Codec.lowerPlain {}⟩

end Staff

end EntityQuery
