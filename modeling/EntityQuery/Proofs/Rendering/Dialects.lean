import EntityQuery.Proofs.Rendering.Vocabulary

/-!
The four dialects write the same query. Those that match without regard to case write it alike; the
others write the query that compares in lower case instead, and one of them writes pages in a form
of its own, which needs an order. So no dialect is given a match that it does not have.
-/

namespace EntityQuery.Sql

namespace Expr

/-! Matching without regard to case -/

mutual

/-- The expression with every match that ignores case replaced by one of both sides in lower
case. -/
def desugar : Expr → Expr
  | .compare op l r =>
    if op = .ilike then .compare .like (.call "LOWER" [l.desugar]) (.call "LOWER" [r.desugar])
    else .compare op l.desugar r.desugar
  | .call f args => .call f (desugarAll args)
  | .inList e vs => .inList e.desugar (desugarAll vs)
  | .isNull e negated => .isNull e.desugar negated
  | .column t c => .column t c
  | .literal l => .literal l
  | .star t => .star t

def desugarAll : List Expr → List Expr
  | [] => []
  | e :: es => e.desugar :: desugarAll es

end

variable {d d' : Dialect}

theorem compareTokens_of_ne {op : Comparison} (h : op ≠ .ilike) (left right : List Token) :
    compareTokens d op left right = left ++ [.space, op.token, .space] ++ right :=
  if_neg fun hc => h hc.1

theorem tokens_lower_like (l r : Expr) :
    tokens d (.compare .like (.call "LOWER" [l]) (.call "LOWER" [r])) =
      lowered (l.tokens d) ++ [.space, .like, .space] ++ lowered (r.tokens d) := by
  rw [tokens, compareTokens_of_ne (by decide)]
  rfl

/-- Where a dialect lacks the match, it is written in lower case. -/
theorem tokens_ilike (h : d.supportsIlike = false) (l r : Expr) :
    tokens d (.compare .ilike l r) =
      tokens d (.compare .like (.call "LOWER" [l]) (.call "LOWER" [r])) := by
  rw [tokens_lower_like, tokens, compareTokens, if_pos ⟨rfl, h⟩]

mutual

/-- A desugared expression is written alike everywhere: as a dialect without the match writes the
expression itself. -/
theorem tokens_desugar (h : d.supportsIlike = false) (d' : Dialect) :
    ∀ e : Expr, e.desugar.tokens d' = e.tokens d
  | .column t c => rfl
  | .literal l => rfl
  | .star t => rfl
  | .compare op l r => by
    have hl := tokens_desugar h d' l
    have hr := tokens_desugar h d' r
    by_cases hop : op = .ilike
    · subst hop
      rw [desugar, if_pos rfl, tokens_lower_like, hl, hr, tokens_ilike h, tokens_lower_like]
    · rw [desugar, if_neg hop, tokens, tokens, compareTokens_of_ne hop, compareTokens_of_ne hop, hl,
        hr]
  | .call f args => by
    simp only [desugar, tokens, tokens_desugarAll h d' args]
  | .inList e vs => by
    simp only [desugar, tokens, tokens_desugar h d' e, tokens_desugarAll h d' vs]
  | .isNull e negated => by
    simp only [desugar, tokens, tokens_desugar h d' e]

theorem tokens_desugarAll (h : d.supportsIlike = false) (d' : Dialect) :
    ∀ es : List Expr, tokensOfList d' (desugarAll es) = tokensOfList d es
  | [] => rfl
  | e :: es => by
    simp only [desugarAll, tokensOfList, tokens_desugar h d' e, tokens_desugarAll h d' es]

end

mutual

/-- Of the dialects, an expression only sees whether they have the match. -/
theorem tokens_congr (h : d.supportsIlike = d'.supportsIlike) :
    ∀ e : Expr, e.tokens d = e.tokens d'
  | .column t c => rfl
  | .literal l => rfl
  | .star t => rfl
  | .compare op l r => by
    simp only [tokens, compareTokens, h, tokens_congr h l, tokens_congr h r]
  | .call f args => by
    simp only [tokens, tokensOfList_congr h args]
  | .inList e vs => by
    simp only [tokens, tokens_congr h e, tokensOfList_congr h vs]
  | .isNull e negated => by
    simp only [tokens, tokens_congr h e]

theorem tokensOfList_congr (h : d.supportsIlike = d'.supportsIlike) :
    ∀ es : List Expr, tokensOfList d es = tokensOfList d' es
  | [] => rfl
  | e :: es => by
    simp only [tokensOfList, tokens_congr h e, tokensOfList_congr h es]

end

end Expr

namespace Query

variable {d : Dialect}

theorem ilike_notMem_page (d : Dialect) (q : Query) : .ilike ∉ q.pageTokens d := by
  have hlimit (p : Page) : .ilike ∉ p.limitTokens := by
    refine notMem_intercalate (by simp) fun ts hts => ?_
    rcases List.mem_append.1 hts with hts | hts
    · obtain ⟨n, -, rfl⟩ := List.mem_map.1 hts
      simp
    · obtain ⟨n, -, rfl⟩ := List.mem_map.1 hts
      simp
  have hfetch (p : Page) : .ilike ∉ p.fetchTokens := by
    cases hp : p.limit <;> simp [Page.fetchTokens, hp]
  unfold pageTokens
  cases q.page with
  | none => exact List.not_mem_nil
  | some p => cases d <;> simp [Page.tokens, hlimit, hfetch]

/-- A dialect that lacks the match is not given it anywhere in a query. -/
theorem ilike_notMem_tokens (h : d.supportsIlike = false) (q : Query) : .ilike ∉ q.tokens d := by
  have hbody : .ilike ∉ q.bodyTokens d := fun hm =>
    Bool.false_ne_true (h.symm.trans (q.inBody_bodyTokens .ilike hm))
  rw [tokens_eq_body, List.mem_append, not_or]
  exact ⟨hbody, ilike_notMem_page d q⟩

/-! The same query in four dialects -/

/-- The query without matches that ignore case. -/
def desugar (q : Query) : Query := q.mapExprs Expr.desugar

/-- `LIMIT n OFFSET m`, as far as there is a limit and an offset. -/
def countTokens : Option UInt64 → Option UInt64 → List Token
  | none, none => []
  | some n, none => [.limit, .space, .count n]
  | none, some m => [.offset, .space, .count m]
  | some n, some m => [.limit, .space, .count n, .space, .offset, .space, .count m]

/-- `OFFSET n ROWS`, and `FETCH NEXT m ROWS ONLY` after it if there is a limit `m`. -/
def rowsTokens (n : UInt64) : Option UInt64 → List Token
  | none => [.offset, .space, .count n, .space, .rows]
  | some m => [.offset, .space, .count n, .space, .rows, .space, .fetch, .space, .next, .space,
      .count m, .space, .rows, .space, .only]

theorem limitTokens_eq (p : Page) : p.limitTokens = countTokens p.limit p.offset := by
  obtain ⟨- | n, - | m⟩ := p <;> rfl

theorem fetchTokens_eq (p : Page) : p.fetchTokens = rowsTokens (p.offset.getD 0) p.limit := by
  cases hp : p.limit <;> simp [Page.fetchTokens, rowsTokens, hp]

theorem pageTokens_of_ne_tsql (hd : d ≠ .tsql) (q : Query) :
    q.pageTokens d = q.page.elim [] fun p => .newline :: countTokens p.limit p.offset := by
  unfold pageTokens
  cases q.page with
  | none => rfl
  | some p =>
    cases d with
    | tsql => exact absurd rfl hd
    | _ => exact congrArg (Token.newline :: ·) (limitTokens_eq p)

theorem pageTokens_tsql (q : Query) :
    q.pageTokens .tsql =
      q.page.elim [] fun p => .newline :: rowsTokens (p.offset.getD 0) p.limit := by
  unfold pageTokens
  cases q.page with
  | none => rfl
  | some p => exact congrArg (Token.newline :: ·) (fetchTokens_eq p)

/-- All dialects but T-SQL page alike and need no order for it. -/
theorem tokens_of_ne_tsql (hd : d ≠ .tsql) (q : Query) :
    q.tokens d = q.unpaged.tokens d ++
      q.page.elim [] fun p => .newline :: countTokens p.limit p.offset := by
  have hplaceholder : q.placeholder d = [] := by
    cases d with
    | tsql => exact absurd rfl hd
    | _ => simp [placeholder, Dialect.pagesNeedOrder]
  rw [tokens_eq_unpaged, hplaceholder, pageTokens_of_ne_tsql hd, List.append_nil]

theorem tokens_tsql (q : Query) :
    q.tokens .tsql = q.unpaged.tokens .tsql ++
      (if q.order = [] ∧ q.page.isSome = true then anyOrderTokens else []) ++
      q.page.elim [] fun p => .newline :: rowsTokens (p.offset.getD 0) p.limit := by
  rw [tokens_eq_unpaged, placeholder, pageTokens_tsql]
  simp [Dialect.pagesNeedOrder]

/-- Postgres and DuckDB write the same statement. MySQL writes what Postgres writes for the
desugared query, and T-SQL does so up to the page, which it writes as rows to skip and to fetch,
after an order that says nothing if the query has none. Neither of them is given a match that
ignores case. -/
theorem tokens_dialects (q : Query) :
    q.tokens .duckdb = q.tokens .postgres ∧
    q.tokens .mysql = q.desugar.tokens .postgres ∧
    (∃ body, q.desugar.tokens .postgres =
        body ++ q.page.elim [] (fun p => .newline :: countTokens p.limit p.offset) ∧
      q.tokens .tsql = body ++
        (if q.order = [] ∧ q.page.isSome = true then
          [.newline, .orderBy, .space, .openParen, .select, .space, .null, .closeParen] else []) ++
        q.page.elim [] fun p => .newline :: rowsTokens (p.offset.getD 0) p.limit) ∧
    .ilike ∉ q.tokens .mysql ∧ .ilike ∉ q.tokens .tsql := by
  have hduckdb : q.unpaged.tokens .duckdb = q.unpaged.tokens .postgres := by
    have hilike : Dialect.duckdb.supportsIlike = Dialect.postgres.supportsIlike := rfl
    have h := tokens_mapExprs_unpaged (f := id) (Expr.tokens_congr hilike) q
    rwa [mapExprs_id] at h
  have hdesugar {d : Dialect} (hd : d.supportsIlike = false) :
      q.desugar.unpaged.tokens .postgres = q.unpaged.tokens d :=
    tokens_mapExprs_unpaged (Expr.tokens_desugar hd .postgres) q
  have hpostgres := tokens_of_ne_tsql (d := .postgres) (by decide) q.desugar
  refine ⟨?_, ?_, ⟨q.desugar.unpaged.tokens .postgres, hpostgres, ?_⟩, ?_, ?_⟩
  · rw [tokens_of_ne_tsql (d := .duckdb) (by decide), hduckdb, ← tokens_of_ne_tsql (by decide)]
  · rw [hpostgres, hdesugar (d := .mysql) rfl, tokens_of_ne_tsql (by decide)]
    rfl
  · rw [hdesugar (d := .tsql) rfl]
    exact tokens_tsql q
  · exact ilike_notMem_tokens rfl q
  · exact ilike_notMem_tokens rfl q

end Query

end EntityQuery.Sql
