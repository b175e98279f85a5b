import EntityQuery.Proofs.Compile.Run
import EntityQuery.Proofs.Compile.Shape
import EntityQuery.Proofs.Lexing.Tokens
import EntityQuery.Proofs.Staff

/-!
Compiled queries cannot be broken out of. In the tokens of a compiled query no two neighbours fuse:
the parts of each clause are joined by blanks and commas, and each clause starts on a line of its
own. So whatever is in the names and the literals, its text is split into just its tokens.
-/

namespace EntityQuery

namespace Sql

/-- Sound tokens, no two of which fuse. -/
structure WellSpaced (ts : List Token) : Prop where
  sound : ∀ t ∈ ts, t.IsSound
  chain : ts.IsChain Token.Beside

namespace WellSpaced

variable {ts us : List Token} {t m : Token}

theorem isSound_of_isMark (h : m.isMark = true) : m.IsSound := by
  rcases Token.eq_of_isMark h with rfl | rfl | rfl | rfl | rfl | rfl | ⟨n, -, rfl⟩ <;> trivial

theorem nil : WellSpaced [] := ⟨by simp, .nil⟩

theorem singleton (h : t.IsSound) : WellSpaced [t] := ⟨by simpa using h, .singleton t⟩

theorem cons_mark (hm : m.isMark = true) (h : WellSpaced ts) : WellSpaced (m :: ts) where
  sound := List.forall_mem_cons.2 ⟨isSound_of_isMark hm, h.sound⟩
  chain := List.isChain_cons.2 ⟨fun _ _ => .inl hm, h.chain⟩

theorem append_mark (hm : m.isMark = true) (ht : WellSpaced ts) (hu : WellSpaced us) :
    WellSpaced (ts ++ m :: us) where
  sound := List.forall_mem_append.2 ⟨ht.sound, (hu.cons_mark hm).sound⟩
  chain := by
    refine List.isChain_append.2 ⟨ht.chain, (hu.cons_mark hm).chain, ?_⟩
    rintro x - y ⟨⟩
    exact .inr (.inl hm)

/-- A token by itself, before a mark. -/
theorem cons (hm : m.isMark = true) (ht : t.IsSound) (h : WellSpaced ts) :
    WellSpaced (t :: m :: ts) := append_mark hm (singleton ht) h

/-- What parts are joined with keeps them apart. -/
theorem intercalate {separator : List Token} {parts : List (List Token)}
    (hs : ∀ ts us, WellSpaced ts → WellSpaced us → WellSpaced (ts ++ (separator ++ us)))
    (h : ∀ p ∈ parts, WellSpaced p) : WellSpaced (List.intercalate separator parts) := by
  induction parts with
  | nil => exact nil
  | cons p parts ih =>
    obtain ⟨hp, hparts⟩ := List.forall_mem_cons.1 h
    cases parts with
    | nil => simpa using hp
    | cons p' parts =>
      rw [List.intercalate_cons_cons, List.append_assoc]
      exact hs _ _ hp (ih hparts)

theorem comma {ts us : List Token} (ht : WellSpaced ts) (hu : WellSpaced us) :
    WellSpaced (ts ++ ([.comma, .space] ++ us)) := append_mark rfl ht (hu.cons_mark rfl)

end WellSpaced

/-! Expressions -/

open Compile (Flat)
open Lexing (isWord)

variable {d : Dialect}

theorem wellSpaced_column (asName c : String) :
    WellSpaced (Expr.tokens d (.column (some asName) c)) where
  sound := by simp [Expr.tokens, Expr.qualifier, Token.IsSound]
  chain := by simp [Expr.tokens, Expr.qualifier, Token.Beside, Token.isName]

theorem wellSpaced_star (asName : String) : WellSpaced (Expr.tokens d (.star (some asName))) where
  sound := by simp [Expr.tokens, Expr.qualifier, Token.IsSound]
  chain := by simp [Expr.tokens, Expr.qualifier, Token.Beside, Token.isName]

theorem isSound_literal {l : Literal} (h : l.Finite) : l.token.IsSound := by
  cases l with
  | float x => exact h
  | _ => trivial

theorem wellSpaced_lowered {ts : List Token} (h : WellSpaced ts) :
    WellSpaced (Expr.lowered ts) := by
  have hf : isWord (Text.upper "LOWER").toList = true := by decide
  have hargs : WellSpaced (List.intercalate [.comma, .space] [ts] ++ [.closeParen]) :=
    .append_mark rfl (by simpa using h) .nil
  exact .cons rfl hf hargs

theorem isSound_comparison (op : Comparison) : op.token.IsSound := by
  cases op <;> trivial

theorem wellSpaced_compare {left right : List Token} (op : Comparison) (hl : WellSpaced left)
    (hr : WellSpaced right) : WellSpaced (Expr.compareTokens d op left right) := by
  have spaced {ts us : List Token} {t : Token} (ht : WellSpaced ts) (hs : t.IsSound)
      (hu : WellSpaced us) : WellSpaced (ts ++ [.space, t, .space] ++ us) := by
    rw [List.append_assoc]
    exact .append_mark rfl ht (.cons rfl hs hu)
  unfold Expr.compareTokens
  split
  · exact spaced (wellSpaced_lowered hl) trivial (wellSpaced_lowered hr)
  · exact spaced hl (isSound_comparison op) hr

theorem wellSpaced_never : WellSpaced Expr.neverTokens :=
  .cons rfl trivial (.cons rfl trivial (.singleton trivial))

theorem wellSpaced_inList {e : List Token} {values : List (List Token)} (he : WellSpaced e)
    (hv : ∀ v ∈ values, WellSpaced v) : WellSpaced (Expr.inListTokens e values) := by
  unfold Expr.inListTokens
  split
  · exact wellSpaced_never
  · have hvalues : WellSpaced (List.intercalate [.comma, .space] values) :=
      .intercalate (fun _ _ => .comma) hv
    have hlist : WellSpaced (List.intercalate [.comma, .space] values ++ [.closeParen]) :=
      .append_mark rfl hvalues .nil
    rw [List.append_assoc, List.append_assoc]
    exact .append_mark rfl he (.cons rfl trivial (hlist.cons_mark rfl))

theorem wellSpaced_flat {c asName : String} {e : Expr} (h : Flat (.column none c) e) :
    WellSpaced ((e.qualify asName).tokens d) := by
  have hcolumn := wellSpaced_column (d := d) asName c
  cases h with
  | isNull negated =>
    refine .append_mark rfl hcolumn (.singleton ?_)
    cases negated <;> trivial
  | compare op hl => exact wellSpaced_compare op hcolumn (.singleton (isSound_literal hl))
  | @member ls hls =>
    rw [Expr.qualify, Expr.tokens, Expr.tokensOfList_eq_map]
    refine wellSpaced_inList hcolumn fun v hv => ?_
    rw [List.map_map] at hv
    obtain ⟨l, hl, rfl⟩ := List.mem_map.1 hv
    exact .singleton (isSound_literal (hls l hl))
  | never =>
    have hn : ((Expr.compare .eq (.literal (.int 1)) (.literal (.int 0))).qualify asName).tokens d =
        Expr.neverTokens := Expr.tokens_never d
    rw [hn]
    exact wellSpaced_never

/-! Clauses of queries -/

/-- What may follow on any stream: nothing, or lines of their own. -/
def IsLines (ts : List Token) : Prop := ∀ us, WellSpaced us → WellSpaced (us ++ ts)

theorem isLines_nil : IsLines [] := fun us h => by rwa [List.append_nil]

theorem isLines_newline {ts : List Token} (h : WellSpaced ts) : IsLines (.newline :: ts) :=
  fun _ hu => .append_mark rfl hu h

theorem IsLines.append {ts us : List Token} (ht : IsLines ts) (hu : IsLines us) :
    IsLines (ts ++ us) := fun vs hv => by
  rw [← List.append_assoc]
  exact hu _ (ht vs hv)

theorem wellSpaced_table (t : Table) : WellSpaced t.tokens := by
  obtain ⟨name, schema, asName⟩ := t
  cases asName with
  | none => exact .singleton trivial
  | some a => exact .cons rfl trivial (.cons rfl trivial (.singleton trivial))

theorem wellSpaced_join {j : Join} (h : WellSpaced (j.condition.tokens d)) :
    WellSpaced (j.tokens d) := by
  have htable : WellSpaced (j.table.tokens ++ .space :: .on :: .space :: j.condition.tokens d) :=
    .append_mark rfl (wellSpaced_table j.table) (.cons rfl trivial h)
  rw [Join.tokens, List.append_assoc, List.append_assoc]
  exact .cons rfl trivial (.cons rfl trivial htable)

theorem isLines_flatMap {α : Type} {f : α → List Token} {xs : List α}
    (h : ∀ x ∈ xs, WellSpaced (f x)) : IsLines (xs.flatMap fun x => .newline :: f x) := by
  induction xs with
  | nil => exact isLines_nil
  | cons x xs ih =>
    obtain ⟨hx, hxs⟩ := List.forall_mem_cons.1 h
    exact (isLines_newline hx).append (ih hxs)

theorem wellSpaced_orderTerm {t : OrderTerm} (h : WellSpaced (t.expr.tokens d)) :
    WellSpaced (t.tokens d) := by
  refine .append_mark rfl h (.singleton ?_)
  cases t.direction <;> trivial

theorem isLines_where {q : Query} (h : ∀ e ∈ q.predicates, WellSpaced (e.tokens d)) :
    IsLines (q.whereTokens d) := by
  unfold Query.whereTokens Query.clause
  split
  · exact isLines_nil
  · refine isLines_newline (.cons rfl trivial (.intercalate ?_ ?_))
    · exact fun ts us ht hu => .append_mark rfl ht (.cons_mark rfl (.cons rfl trivial hu))
    · intro ts hts
      obtain ⟨e, he, rfl⟩ := List.mem_map.1 hts
      exact h e he

theorem isLines_order {q : Query} (h : ∀ t ∈ q.order, WellSpaced (t.expr.tokens d)) :
    IsLines (q.orderTokens d) := by
  unfold Query.orderTokens
  split
  · refine isLines_newline (.cons rfl trivial (.cons_mark rfl (.cons rfl trivial ?_)))
    exact .cons rfl trivial .nil
  · unfold Query.clause
    split
    · exact isLines_nil
    · refine isLines_newline (.cons rfl trivial (.intercalate (fun _ _ => .comma) ?_))
      intro ts hts
      obtain ⟨t, ht, rfl⟩ := List.mem_map.1 hts
      exact wellSpaced_orderTerm (h t ht)

theorem wellSpaced_limit (p : Page) : WellSpaced p.limitTokens := by
  refine .intercalate (fun ts us ht hu => .append_mark rfl ht hu) fun ts hts => ?_
  rcases List.mem_append.1 hts with hts | hts
  · obtain ⟨n, -, rfl⟩ := List.mem_map.1 hts
    exact .cons rfl trivial (.singleton trivial)
  · obtain ⟨n, -, rfl⟩ := List.mem_map.1 hts
    exact .cons rfl trivial (.singleton trivial)

theorem wellSpaced_fetch (p : Page) : WellSpaced p.fetchTokens := by
  have hrows : WellSpaced [.offset, .space, .count (p.offset.getD 0), .space, .rows] :=
    .cons rfl trivial (.cons rfl trivial (.singleton trivial))
  unfold Page.fetchTokens
  cases p.limit with
  | none => simpa using hrows
  | some n =>
    refine .append_mark rfl hrows (.cons rfl trivial (.cons rfl trivial (.cons rfl trivial ?_)))
    exact .cons rfl trivial (.singleton trivial)

theorem isLines_page (q : Query) : IsLines (q.pageTokens d) := by
  unfold Query.pageTokens
  cases q.page with
  | none => exact isLines_nil
  | some p =>
    refine isLines_newline ?_
    cases d with
    | tsql => exact wellSpaced_fetch p
    | _ => exact wellSpaced_limit p

theorem wellSpaced_select {q : Query} (h : ∀ e ∈ q.select, WellSpaced (e.tokens d)) :
    WellSpaced (q.selectTokens d) := by
  unfold Query.selectTokens Query.clause
  split
  · exact .cons rfl trivial (.singleton trivial)
  · split
    · exact .singleton trivial
    · refine .cons rfl trivial (.cons_mark rfl (.intercalate ?_ ?_))
      · exact fun ts us ht hu => .append_mark rfl ht (.cons_mark rfl (.cons_mark rfl hu))
      · intro ts hts
        obtain ⟨e, he, rfl⟩ := List.mem_map.1 hts
        exact h e he

/-- A query is well spaced if its expressions are. -/
theorem wellSpaced_query {q : Query} (hs : ∀ e ∈ q.select, WellSpaced (e.tokens d))
    (hj : ∀ j ∈ q.joins, WellSpaced (j.condition.tokens d))
    (hp : ∀ e ∈ q.predicates, WellSpaced (e.tokens d))
    (ho : ∀ t ∈ q.order, WellSpaced (t.expr.tokens d)) : WellSpaced (q.tokens d) := by
  have hsource : IsLines q.sourceTokens := by
    unfold Query.sourceTokens
    cases q.source with
    | none => exact isLines_nil
    | some t => exact isLines_newline (.cons rfl trivial (wellSpaced_table t))
  have hselect := hsource _ (wellSpaced_select hs)
  have hjoins := isLines_flatMap (fun j hm => wellSpaced_join (hj j hm)) _ hselect
  have hwhere := isLines_where hp _ hjoins
  have horder := isLines_order ho _ hwhere
  exact isLines_page q _ horder

/-- The text of a well-spaced stream is split into just its tokens. -/
theorem lexemes_render {ts : List Token} (h : WellSpaced ts) :
    ∃ s, render d ts = .ok s ∧ d.lexemes s.toList = some (ts.flatMap (Token.lexemes d)) := by
  refine ⟨String.join (ts.map (Token.text d)), render_eq_ok_iff.2 ⟨?_, rfl⟩, ?_⟩
  · exact fun t ht => Token.failure?_of_isSound (h.sound t ht)
  · rw [String.toList_join, List.flatMap_map]
    exact Dialect.lexemes_stream h.sound h.chain

end Sql

/-! Compiled queries -/

namespace Compile

open EntityQuery.Sql (Dialect Query WellSpaced wellSpaced_column)

variable {d : Dialect}

theorem wellSpaced_of_mem_joins {p : Plan String} {asName : String} :
    ∀ j ∈ p.joins asName, WellSpaced (j.condition.tokens d) := by
  intro j hj
  cases p.onColumns_of_mem_joins asName j hj
  exact Sql.wellSpaced_compare .eq (wellSpaced_column _ _) (wellSpaced_column _ _)

theorem wellSpaced_of_mem_predicates {p : Plan String} (hp : ∀ q ∈ p.parts, q.IsFlat)
    {asName : String} : ∀ e ∈ p.predicates asName, WellSpaced (e.tokens d) := by
  intro e he
  obtain ⟨x, -, q, hq, rfl⟩ := Plan.exists_flat_of_mem_predicates hp he
  exact Sql.wellSpaced_flat hq

theorem wellSpaced_of_mem_order {p : Plan String} {asName : String} :
    ∀ t ∈ p.orderTerms asName, WellSpaced (t.expr.tokens d) := by
  intro t ht
  obtain ⟨a, c, he⟩ := p.exists_column_of_mem_orderTerms asName t ht
  rw [he]
  exact wellSpaced_column a c

theorem wellSpaced_toQuery {spec : Spec} {schema : Schema} {codec : Codec}
    {fallbackLimit : UInt64} {entity : String} {q : Query}
    (h : spec.toQuery schema codec fallbackLimit entity = .ok q) : WellSpaced (q.tokens d) := by
  obtain ⟨e, p, limit, offset, -, -, -, hp, rfl⟩ := Spec.exists_plan_of_toQuery h
  have hflat : ∀ q ∈ (p.placed e).parts, q.IsFlat := (planned_of_plan _ hp).isFlat_place _
  refine Sql.wellSpaced_query ?_ ?_ ?_ ?_
  · rw [select_addPage]
    exact List.forall_mem_singleton.2 (Sql.wellSpaced_star (sourceName e))
  · rw [joins_addPage]
    exact wellSpaced_of_mem_joins
  · rw [predicates_addPage]
    exact wellSpaced_of_mem_predicates hflat
  · rw [order_addPage]
    refine List.forall_mem_append.2 ⟨wellSpaced_of_mem_order, ?_⟩
    exact List.forall_mem_singleton.2 (wellSpaced_column (sourceName e) e.primaryKey)

end Compile

open EntityQuery.Sql (Dialect Query Token)

/-- Whatever stands in its names and literals, a compiled query has a text in every dialect, and a
database reads just the query's tokens there. -/
theorem Spec.lexemes_toSql {spec : Spec} {schema : Schema} {codec : Codec} {fallbackLimit : UInt64}
    {entity : String} {q : Query} (h : spec.toQuery schema codec fallbackLimit entity = .ok q)
    (d : Dialect) :
    ∃ s, q.toSql d = .ok s ∧ d.lexemes s.toList = some ((q.tokens d).flatMap (Token.lexemes d)) :=
  Sql.lexemes_render (Compile.wellSpaced_toQuery h)

theorem Staff.lexemes_toSql_query :
    Staff.spec.toQuery Staff.schema .plain 10 "Person" = .ok Staff.query ∧
    ∃ s, Staff.query.toSql .tsql = .ok s ∧ Dialect.tsql.lexemes s.toList =
      some ((Staff.query.tokens .tsql).flatMap (Token.lexemes .tsql)) :=
  ⟨Staff.toQuery_spec, Spec.lexemes_toSql Staff.toQuery_spec .tsql⟩

end EntityQuery
