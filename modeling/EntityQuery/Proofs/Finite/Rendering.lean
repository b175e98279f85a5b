import EntityQuery.Proofs.Compile.Shape
import EntityQuery.Sql.Layout
import Mathlib.Data.List.Basic

/-!
The numbers of a statement. Every double among the tokens of a query is one of the query's literals,
whatever the dialect, so a query whose literals are finite always has a text.
-/

namespace EntityQuery.Sql

open EntityQuery.Decimal (Binary64)

/-! Literals -/

namespace Expr

mutual

/-- The literals of an expression, at whatever depth they stand. -/
def literals : Expr → List Literal
  | .column _ _ | .star _ => []
  | .literal l => [l]
  | .compare _ l r => l.literals ++ r.literals
  | .call _ args => literalsOfList args
  | .inList e vs => e.literals ++ literalsOfList vs
  | .isNull e _ => e.literals

def literalsOfList : List Expr → List Literal
  | [] => []
  | e :: es => e.literals ++ literalsOfList es

end

theorem literalsOfList_eq_flatMap (es : List Expr) : literalsOfList es = es.flatMap literals := by
  induction es with
  | nil => rfl
  | cons e es ih => rw [literalsOfList, ih, List.flatMap_cons]

end Expr

/-- The expressions of a query, in all its clauses. -/
def Query.exprs (q : Query) : List Expr :=
  q.select ++ q.joins.map (·.condition) ++ q.predicates ++ q.order.map (·.expr)

/-- The literals of a query, wherever they stand. -/
def Query.literals (q : Query) : List Literal := q.exprs.flatMap Expr.literals

/-! Tokens -/

/-- The double that a token writes, if it writes one. -/
def Token.double? : Token → Option Binary64
  | .float x => some x
  | _ => none

/-- The doubles of a list of tokens. -/
def doubles (ts : List Token) : List Binary64 := ts.filterMap Token.double?

section

variable {ts us : List Token}

@[simp] theorem doubles_nil : doubles [] = [] := rfl

@[simp] theorem doubles_cons (t : Token) : doubles (t :: ts) = t.double?.toList ++ doubles ts := by
  cases h : t.double? <;> simp [doubles, h]

@[simp] theorem doubles_append : doubles (ts ++ us) = doubles ts ++ doubles us :=
  List.filterMap_append

theorem mem_doubles {x : Binary64} : x ∈ doubles ts ↔ .float x ∈ ts := by
  rw [doubles, List.mem_filterMap]
  constructor
  · rintro ⟨t, ht, hx⟩
    cases t with
    | float y =>
      cases hx
      exact ht
    | _ => cases hx
  · exact fun h => ⟨.float x, h, rfl⟩

/-- Separators without doubles add none. -/
theorem doubles_intercalate {separator : List Token} (hs : doubles separator = [])
    (parts : List (List Token)) :
    doubles (List.intercalate separator parts) = parts.flatMap doubles := by
  induction parts with
  | nil => rfl
  | cons p ps ih =>
    cases ps with
    | nil => simp
    | cons q qs =>
      rw [List.intercalate_cons_cons, doubles_append, doubles_append, hs, ih, List.append_nil,
        ← List.flatMap_cons]

theorem doubles_clause {opening separator : List Token} (ho : doubles opening = [])
    (hs : doubles separator = []) (parts : List (List Token)) :
    doubles (Query.clause opening separator parts) = parts.flatMap doubles := by
  unfold Query.clause
  split
  · rename_i h
    rw [List.isEmpty_iff.1 h]
    rfl
  · rw [doubles_append, ho, doubles_intercalate hs, List.nil_append]

end

/-! Expressions -/

section

variable (d : Dialect)

theorem doubles_qualifier (t : Option String) : doubles (Expr.qualifier t) = [] := by
  cases t <;> rfl

theorem mem_doubles_token {l : Literal} {x : Binary64} : x ∈ doubles [l.token] ↔ l = .float x := by
  cases l <;> simp [Literal.token, Token.double?]
  exact eq_comm

theorem doubles_callTokens (f : String) (args : List (List Token)) :
    doubles (Expr.callTokens f args) = args.flatMap doubles := by
  simp [Expr.callTokens, doubles_intercalate, Token.double?]

theorem doubles_compareTokens (op : Comparison) (left right : List Token) :
    doubles (Expr.compareTokens d op left right) = doubles left ++ doubles right := by
  have hop : doubles [.space, op.token, .space] = [] := by cases op <;> rfl
  unfold Expr.compareTokens Expr.lowered
  split
  · simp [doubles_callTokens, Token.double?]
  · rw [doubles_append, doubles_append, hop, List.append_nil]

theorem doubles_inListTokens_subset (e : List Token) (values : List (List Token)) :
    doubles (Expr.inListTokens e values) ⊆ doubles e ++ values.flatMap doubles := by
  unfold Expr.inListTokens
  split
  · simp [Expr.neverTokens, Token.double?]
  · simp [doubles_intercalate, Token.double?]

mutual

/-- The doubles that an expression is written with are literals of it. -/
theorem float_mem_literals {x : Binary64} :
    ∀ e : Expr, x ∈ doubles (e.tokens d) → .float x ∈ e.literals
  | .column t c, h => by simp [Expr.tokens, doubles_qualifier, Token.double?] at h
  | .star t, h => by simp [Expr.tokens, doubles_qualifier, Token.double?] at h
  | .literal l, h => by
    rw [Expr.tokens, mem_doubles_token] at h
    simp [Expr.literals, h]
  | .compare op l r, h => by
    rw [Expr.tokens, doubles_compareTokens, List.mem_append] at h
    rw [Expr.literals, List.mem_append]
    exact h.imp (float_mem_literals l) (float_mem_literals r)
  | .call f args, h => by
    rw [Expr.tokens, doubles_callTokens] at h
    exact float_mem_literalsOfList args h
  | .inList e vs, h => by
    rw [Expr.tokens] at h
    rw [Expr.literals, List.mem_append]
    exact (List.mem_append.1 (doubles_inListTokens_subset _ _ h)).imp (float_mem_literals e)
      (float_mem_literalsOfList vs)
  | .isNull e negated, h => by
    have hnull : Token.double? (if negated then .isNotNull else .isNull) = none := by
      cases negated <;> rfl
    simp only [Expr.tokens, doubles_append, doubles_cons, hnull, List.mem_append] at h
    exact float_mem_literals e (by simpa [Token.double?] using h)

theorem float_mem_literalsOfList {x : Binary64} :
    ∀ es : List Expr, x ∈ (Expr.tokensOfList d es).flatMap doubles →
      .float x ∈ Expr.literalsOfList es
  | [], h => by simp [Expr.tokensOfList] at h
  | e :: es, h => by
    rw [Expr.tokensOfList, List.flatMap_cons, List.mem_append] at h
    rw [Expr.literalsOfList, List.mem_append]
    exact h.imp (float_mem_literals e) (float_mem_literalsOfList es)

end

/-! Queries -/

theorem doubles_select (q : Query) :
    doubles (q.selectTokens d) = q.select.flatMap fun e => doubles (e.tokens d) := by
  unfold Query.selectTokens
  split
  · rename_i h
    simp [List.isEmpty_iff.1 h, Token.double?]
  · rw [doubles_cons, doubles_clause rfl rfl, List.flatMap_map]
    rfl

theorem doubles_table (t : Table) : doubles t.tokens = [] := by
  obtain ⟨name, schema, - | a⟩ := t <;> simp [Table.tokens, Token.double?]

theorem doubles_source (q : Query) : doubles q.sourceTokens = [] := by
  unfold Query.sourceTokens
  cases q.source <;> simp [doubles_table, Token.double?]

theorem doubles_join (j : Join) : doubles (j.tokens d) = doubles (j.condition.tokens d) := by
  simp [Join.tokens, doubles_table, Token.double?]

theorem doubles_joins (q : Query) :
    doubles (q.joinTokens d) =
      (q.joins.map (·.condition)).flatMap fun e => doubles (e.tokens d) := by
  rw [Query.joinTokens]
  induction q.joins with
  | nil => rfl
  | cons j js ih =>
    rw [List.flatMap_cons, List.map_cons, List.flatMap_cons, doubles_append, ih, doubles_cons,
      doubles_join]
    rfl

theorem doubles_where (q : Query) :
    doubles (q.whereTokens d) = q.predicates.flatMap fun e => doubles (e.tokens d) := by
  rw [Query.whereTokens, doubles_clause rfl rfl, List.flatMap_map]

theorem doubles_orderTerm (t : OrderTerm) : doubles (t.tokens d) = doubles (t.expr.tokens d) := by
  have hdir : doubles [.space, directionToken t.direction] = [] := by cases t.direction <;> rfl
  rw [OrderTerm.tokens, doubles_append, hdir, List.append_nil]

theorem doubles_order (q : Query) :
    doubles (q.orderTokens d) = (q.order.map (·.expr)).flatMap fun e => doubles (e.tokens d) := by
  unfold Query.orderTokens
  split
  · rename_i h
    simp only [Bool.and_eq_true, List.isEmpty_iff] at h
    rw [h.1.1]
    rfl
  · rw [doubles_clause rfl rfl, List.flatMap_map, List.flatMap_map]
    simp only [doubles_orderTerm]

theorem doubles_page (q : Query) : doubles (q.pageTokens d) = [] := by
  have hlimit (p : Page) : doubles p.limitTokens = [] := by
    rw [Page.limitTokens, doubles_intercalate rfl]
    cases p.limit <;> cases p.offset <;> rfl
  have hfetch (p : Page) : doubles p.fetchTokens = [] := by
    unfold Page.fetchTokens
    cases p.limit <;> rfl
  unfold Query.pageTokens
  cases q.page with
  | none => rfl
  | some p =>
    rw [doubles_cons]
    cases d with
    | tsql => exact hfetch p
    | _ => exact hlimit p

/-- Only the expressions of a query write doubles. -/
theorem doubles_tokens (q : Query) :
    doubles (q.tokens d) = q.exprs.flatMap fun e => doubles (e.tokens d) := by
  rw [Query.tokens, Query.exprs]
  simp only [doubles_append, doubles_select, doubles_source, doubles_joins, doubles_where,
    doubles_order, doubles_page, List.flatMap_append, List.append_nil]

theorem float_mem_literals_query {q : Query} {x : Binary64} (h : .float x ∈ q.tokens d) :
    .float x ∈ q.literals := by
  rw [← mem_doubles, doubles_tokens] at h
  obtain ⟨e, he, hx⟩ := List.mem_flatMap.1 h
  exact List.mem_flatMap.2 ⟨e, he, float_mem_literals d e hx⟩

/-- A query of finite literals has a text in every dialect. -/
theorem exists_toSql_of_finite {q : Query} (h : ∀ l ∈ q.literals, l.Finite) :
    ∃ s, q.toSql d = .ok s := by
  refine ⟨_, render_eq_ok_iff.2 ⟨fun t ht => ?_, rfl⟩⟩
  cases t with
  | float x => exact if_pos (h _ (float_mem_literals_query d ht))
  | _ => rfl

end

end EntityQuery.Sql
