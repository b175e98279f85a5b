import EntityQuery.Sql.Layout

/-!
Rewriting the expressions of a query. If the rewritten expressions have the tokens that the old ones
have, perhaps in another dialect, then so has the query, up to its page. One such rewriting settles
membership in an empty list, which is written like the predicate that no row meets.
-/

namespace EntityQuery.Sql

/-! Parts of a statement -/

theorem intercalate_cons_eq {α : Type} (separator p : List α) (ps : List (List α)) :
    List.intercalate separator (p :: ps) = p ++ ps.flatMap (separator ++ ·) := by
  induction ps generalizing p with
  | nil => simp
  | cons p' ps ih =>
    rw [List.intercalate_cons_cons, ih, List.flatMap_cons, List.append_assoc, List.append_assoc]

/-- What holds of all that is in the parts and the separator holds of all that is joined. -/
theorem forall_mem_intercalate {α : Type} {P : α → Prop} {separator : List α}
    {parts : List (List α)} (hs : ∀ x ∈ separator, P x) (h : ∀ p ∈ parts, ∀ x ∈ p, P x) :
    ∀ x ∈ List.intercalate separator parts, P x := by
  cases parts with
  | nil => exact List.forall_mem_nil P
  | cons p ps =>
    obtain ⟨hp, hps⟩ := List.forall_mem_cons.1 h
    rw [intercalate_cons_eq]
    refine List.forall_mem_append.2 ⟨hp, fun x hx => ?_⟩
    obtain ⟨p', hp', hx⟩ := List.mem_flatMap.1 hx
    rcases List.mem_append.1 hx with hx | hx
    · exact hs x hx
    · exact hps p' hp' x hx

/-- Parts and separators without a token make a list without it. -/
theorem notMem_intercalate {t : Token} {separator : List Token} {parts : List (List Token)}
    (hs : t ∉ separator) (h : ∀ p ∈ parts, t ∉ p) : t ∉ List.intercalate separator parts := by
  have hne : ∀ x ∈ List.intercalate separator parts, x ≠ t :=
    forall_mem_intercalate (fun x hx he => hs (he ▸ hx)) fun p hp x hx he => h p hp (he ▸ hx)
  exact fun hm => hne t hm rfl

namespace Query

/-- The query with each of its expressions rewritten. -/
def mapExprs (f : Expr → Expr) (q : Query) : Query :=
  { q with
    select := q.select.map f
    joins := q.joins.map fun j => { j with condition := f j.condition }
    predicates := q.predicates.map f
    order := q.order.map fun t => { t with expr := f t.expr } }

theorem mapExprs_id (q : Query) : q.mapExprs id = q := by
  simp [mapExprs]

/-- The query for all rows at once. -/
def unpaged (q : Query) : Query := { q with page := none }

/-- An order that says nothing is needed for a page only. -/
def placeholder (d : Dialect) (q : Query) : List Token :=
  if q.order.isEmpty && d.pagesNeedOrder && q.page.isSome then anyOrderTokens else []

theorem tokens_eq_unpaged (d : Dialect) (q : Query) :
    q.tokens d = q.unpaged.tokens d ++ q.placeholder d ++ q.pageTokens d := by
  have horder : q.orderTokens d = q.unpaged.orderTokens d ++ q.placeholder d := by
    unfold orderTokens placeholder
    split
    · rename_i h
      simp only [Bool.and_eq_true, List.isEmpty_iff] at h
      simp [unpaged, h.1.1, clause]
    · simp [unpaged]
  have hpage : q.unpaged.pageTokens d = [] := rfl
  simp only [tokens, horder, hpage, List.append_nil, List.append_assoc]
  rfl

section

variable {f : Expr → Expr} {d d' : Dialect}

theorem selectTokens_mapExprs (h : ∀ e, (f e).tokens d' = e.tokens d) (q : Query) :
    (q.mapExprs f).selectTokens d' = q.selectTokens d := by
  simp only [selectTokens, mapExprs, List.isEmpty_map, List.map_map, Function.comp_def, h]

theorem joinTokens_mapExprs (h : ∀ e, (f e).tokens d' = e.tokens d) (q : Query) :
    (q.mapExprs f).joinTokens d' = q.joinTokens d := by
  simp only [joinTokens, mapExprs, List.flatMap_map, Join.tokens, h]

theorem whereTokens_mapExprs (h : ∀ e, (f e).tokens d' = e.tokens d) (q : Query) :
    (q.mapExprs f).whereTokens d' = q.whereTokens d := by
  simp only [whereTokens, mapExprs, List.map_map, Function.comp_def, h]

theorem orderTokens_mapExprs (h : ∀ e, (f e).tokens d' = e.tokens d) {q : Query}
    (hq : q.page = none) : (q.mapExprs f).orderTokens d' = q.orderTokens d := by
  have hterm (t : OrderTerm) : OrderTerm.tokens d' { t with expr := f t.expr } = t.tokens d := by
    rw [OrderTerm.tokens, OrderTerm.tokens, h]
  simp only [orderTokens, mapExprs, hq, Option.isSome_none, Bool.and_false, List.map_map,
    Function.comp_def, hterm]

/-- Up to its page, a rewritten query is written as the query itself is. -/
theorem tokens_mapExprs_unpaged (h : ∀ e, (f e).tokens d' = e.tokens d) (q : Query) :
    (q.mapExprs f).unpaged.tokens d' = q.unpaged.tokens d := by
  have hcomm : (q.mapExprs f).unpaged = q.unpaged.mapExprs f := rfl
  rw [hcomm, tokens, tokens, selectTokens_mapExprs h, joinTokens_mapExprs h, whereTokens_mapExprs h,
    orderTokens_mapExprs h rfl]
  rfl

end

/-- In one dialect, a rewriting that keeps the tokens of expressions keeps those of queries. -/
theorem tokens_mapExprs {f : Expr → Expr} {d : Dialect} (h : ∀ e, (f e).tokens d = e.tokens d)
    (q : Query) : (q.mapExprs f).tokens d = q.tokens d := by
  have hplaceholder : (q.mapExprs f).placeholder d = q.placeholder d := by
    simp only [placeholder, mapExprs, List.isEmpty_map]
  rw [tokens_eq_unpaged, tokens_eq_unpaged d q, tokens_mapExprs_unpaged h, hplaceholder]
  rfl

end Query

/-! Membership in an empty list -/

namespace Expr

mutual

/-- The expression with every membership in an empty list replaced by the comparison of one with
zero, which no row meets. -/
def settled : Expr → Expr
  | .compare op l r => .compare op l.settled r.settled
  | .call f args => .call f (settledAll args)
  | .inList e vs =>
    if vs.isEmpty then .compare .eq (.literal (.int 1)) (.literal (.int 0))
    else .inList e.settled (settledAll vs)
  | .isNull e negated => .isNull e.settled negated
  | .column t c => .column t c
  | .literal l => .literal l
  | .star t => .star t

def settledAll : List Expr → List Expr
  | [] => []
  | e :: es => e.settled :: settledAll es

end

theorem settledAll_literals (ls : List Literal) :
    settledAll (ls.map .literal) = ls.map .literal := by
  induction ls with
  | nil => rfl
  | cons l ls ih => rw [List.map_cons, settledAll, ih, settled]

variable (d : Dialect)

mutual

/-- Settled expressions are written as before. -/
theorem tokens_settled : ∀ e : Expr, e.settled.tokens d = e.tokens d
  | .column t c => rfl
  | .literal l => rfl
  | .star t => rfl
  | .compare op l r => by
    simp only [settled, tokens, tokens_settled l, tokens_settled r]
  | .call f args => by
    simp only [settled, tokens, tokens_settledAll args]
  | .isNull e negated => by
    simp only [settled, tokens, tokens_settled e]
  | .inList e [] => tokens_never d
  | .inList e (v :: vs) => by
    have hcons : (v :: vs).isEmpty = false := rfl
    rw [settled, hcons, if_neg Bool.false_ne_true, tokens, tokens, tokens_settled e,
      tokens_settledAll (v :: vs)]

theorem tokens_settledAll : ∀ es : List Expr, tokensOfList d (settledAll es) = tokensOfList d es
  | [] => rfl
  | e :: es => by
    simp only [settledAll, tokensOfList, tokens_settled e, tokens_settledAll es]

end

end Expr

namespace Query

/-- The query without memberships in empty lists. -/
def settled (q : Query) : Query := q.mapExprs Expr.settled

theorem tokens_settled (d : Dialect) (q : Query) : q.settled.tokens d = q.tokens d :=
  tokens_mapExprs (Expr.tokens_settled d) q

theorem toSql_settled (d : Dialect) (q : Query) : q.settled.toSql d = q.toSql d := by
  rw [toSql, toSql, tokens_settled]

end Query

end EntityQuery.Sql
