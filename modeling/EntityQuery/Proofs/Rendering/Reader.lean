import EntityQuery.Proofs.Compile.Bindings
import EntityQuery.Proofs.Compile.Run
import EntityQuery.Proofs.Rendering.Rewriting
import EntityQuery.Proofs.Staff

/-!
Reading a statement back. The tokens of a compiled query fall into lines, each of which opens with
the keyword of its clause, so that a reader can go through them line by line and build the query up
again. All that it cannot tell is whether the predicate that no row meets was a membership in an
empty list.
-/

namespace EntityQuery

namespace Sql

open EntityQuery.Compile (Flat)

/-! Reading tokens -/

namespace Token

def literal? : Token → Option Literal
  | .int n => some (.int n)
  | .float x => some (.float x)
  | .string s => some (.string s)
  | .bool b => some (.bool b)
  | .null => some .null
  | _ => none

def comparison? : Token → Option Comparison
  | .eq => some .eq
  | .ne => some .ne
  | .lt => some .lt
  | .gt => some .gt
  | .lte => some .lte
  | .gte => some .gte
  | .like => some .like
  | .ilike => some .ilike
  | _ => none

def direction? : Token → Option Direction
  | .asc => some .asc
  | .desc => some .desc
  | _ => none

/-- Whether a token can stand in a predicate. -/
def inPredicate : Token → Bool
  | .ident _ | .dot | .space | .comma | .openParen | .closeParen => true
  | .eq | .ne | .lt | .gt | .lte | .gte | .like | .ilike => true
  | .inList | .isNull | .isNotNull => true
  | .int _ | .float _ | .string _ | .bool _ | .null => true
  | .function f => f == "LOWER"
  | _ => false

theorem literal?_token (l : Literal) : l.token.literal? = some l := by cases l <;> rfl

theorem inPredicate_token (l : Literal) : l.token.inPredicate = true := by cases l <;> rfl

end Token

/-! Reading predicates -/

namespace Expr

/-- A predicate on the column, from what is written after it. -/
def ofTest? (column : Expr) : List Token → Option Expr
  | [.isNull] => some (.isNull column false)
  | [.isNotNull] => some (.isNull column true)
  | .inList :: ts => some (.inList column ((ts.filterMap Token.literal?).map .literal))
  | [op, .space, l] => return .compare (← op.comparison?) column (.literal (← l.literal?))
  | _ => none

def ofTokens? : List Token → Option Expr
  | .ident a :: .dot :: .ident c :: .space :: ts => ofTest? (.column (some a) c) ts
  | ts => if ts = neverTokens then some .never else none

/-- Between the literals of a list, nothing reads as one. -/
theorem filterMap_literal?_intercalate (ls : List Literal) :
    (List.intercalate [.comma, .space] (ls.map fun l => [l.token])).filterMap Token.literal? =
      ls := by
  induction ls with
  | nil => rfl
  | cons l ls ih =>
    cases ls with
    | nil => simp [Token.literal?_token]
    | cons l' ls =>
      have hl : [l.token, .comma, .space].filterMap Token.literal? = [l] := by cases l <;> rfl
      rw [List.map_cons] at ih
      rw [List.map_cons, List.map_cons, List.intercalate_cons_cons, List.filterMap_append, ih]
      exact congrArg (· ++ l' :: ls) hl

theorem tokens_inList_literals (column : Expr) (l : Literal) (ls : List Literal) :
    (Expr.inList column ((l :: ls).map .literal)).tokens .postgres = column.tokens .postgres ++
      [.space, .inList, .space, .openParen] ++
      List.intercalate [.comma, .space] ((l :: ls).map fun l => [l.token]) ++ [.closeParen] := by
  rw [tokens, tokensOfList_eq_map, List.map_map]
  rfl

theorem settled_inList_literals (asName c : String) (l : Literal) (ls : List Literal) :
    (Expr.inList (.column (some asName) c) ((l :: ls).map .literal)).settled =
      .inList (.column (some asName) c) ((l :: ls).map .literal) := by
  rw [settled, settledAll_literals]
  rfl

/-- A flat predicate is read back, if settled. -/
theorem ofTokens?_tokens {a c : String} {e : Expr} (h : Flat (.column (some a) c) e) :
    ofTokens? (e.tokens .postgres) = some e.settled := by
  cases h with
  | isNull negated => cases negated <;> rfl
  | @compare op l hl =>
    have hread : ofTest? (.column (some a) c) [op.token, .space, l.token] =
        some (.compare op (.column (some a) c) (.literal l)) := by
      cases op <;> simp [ofTest?, Token.literal?_token, Comparison.token, Token.comparison?]
    rw [tokens, compareTokens, if_neg (by simp [Dialect.supportsIlike])]
    exact hread
  | @member ls hls =>
    cases ls with
    | nil => rfl
    | cons l ls =>
      have hread : List.filterMap Token.literal? ([.space, .openParen] ++
          List.intercalate [.comma, .space] ((l :: ls).map fun l => [l.token]) ++
            [.closeParen]) = l :: ls := by
        rw [List.filterMap_append, List.filterMap_append, filterMap_literal?_intercalate]
        exact List.append_nil _
      rw [tokens_inList_literals, settled_inList_literals]
      exact congrArg (fun ls => some (Expr.inList (.column (some a) c) (ls.map .literal))) hread
  | never => rfl

theorem inPredicate_tokens {d : Dialect} {a c : String} {e : Expr}
    (h : Flat (.column (some a) c) e) : ∀ t ∈ e.tokens d, t.inPredicate = true := by
  rw [← List.all_eq_true]
  cases h with
  | isNull negated => cases negated <;> rfl
  | @compare op l hl =>
    have hop : op.token.inPredicate = true := by cases op <;> rfl
    rw [tokens, compareTokens]
    split <;>
      simp only [lowered, callTokens, tokens, List.intercalate_singleton, List.all_append,
        List.all_cons, hop, Token.inPredicate_token] <;> rfl
  | @member ls hls =>
    rw [tokens, tokensOfList_eq_map, List.map_map, inListTokens]
    split
    · rfl
    · have hlist : ∀ t ∈ List.intercalate [.comma, .space] (ls.map (tokens d ∘ literal)),
          t.inPredicate = true := by
        refine forall_mem_intercalate (List.all_eq_true.1 rfl) ?_
        exact List.forall_mem_map.2 fun l _ =>
          List.forall_mem_singleton.2 (Token.inPredicate_token l)
      rw [List.all_append, List.all_append, List.all_eq_true.2 hlist]
      rfl
  | never =>
    have hn : (Expr.compare .eq (.literal (.int 1)) (.literal (.int 0))).tokens d = neverTokens :=
      tokens_never d
    rw [hn]
    rfl

end Expr

/-! Reading lines -/

/-- Order terms, with what separates them left out. -/
def readTerms : List Token → List OrderTerm
  | .ident a :: .dot :: .ident c :: .space :: dir :: ts =>
    (dir.direction?.toList.map fun d => ⟨.column (some a) c, d⟩) ++ readTerms ts
  | _ :: ts => readTerms ts
  | [] => []

namespace Query

/-- The query with what a line says added to it. -/
def readLine? (q : Query) : List Token → Option Query
  | [.select] => some q
  | [.indent _, .ident a, .dot, .star] => some (q.withSelect [.star (some a)])
  | [.from, .space, .qualified schema name, .space, .as, .space, .ident a] =>
    some (q.withSource ⟨name, schema, some a⟩)
  | [.inner, .space, .join, .space, .qualified schema name, .space, .as, .space, .ident a, .space,
      .on, .space, .ident parent, .dot, .ident key, .space, .eq, .space, .ident own, .dot,
      .ident primary] =>
    some (q.addJoin ⟨⟨name, schema, some a⟩,
      .compare .eq (.column (some parent) key) (.column (some own) primary)⟩)
  | .where :: .space :: ts => return q.addPredicate (← Expr.ofTokens? ts)
  | .indent _ :: .and :: .space :: ts => return q.addPredicate (← Expr.ofTokens? ts)
  | .orderBy :: .space :: ts => some (q.withOrder (readTerms ts))
  | [.limit, .space, .count n] => some (q.withLimit n)
  | [.limit, .space, .count n, .space, .offset, .space, .count m] =>
    some ((q.withLimit n).withOffset m)
  | _ => none

/-- Reads the statement of a query, line by line. -/
def ofTokens? (ts : List Token) : Option Query := (ts.splitOn .newline).foldlM readLine? {}

/-! The lines of a statement -/

/-- Queries of the form that compiling gives. -/
structure Legible (q : Query) : Prop where
  select : ∃ a, q.select = [.star (some a)]
  source : ∃ schema name a, q.source = some ⟨name, schema, some a⟩
  joins : ∀ j ∈ q.joins, j.OnColumns
  predicates : ∀ e ∈ q.predicates, ∃ a c, Flat (.column (some a) c) e
  ordered : q.order ≠ []
  order : ∀ t ∈ q.order, ∃ a c, t.expr = .column (some a) c
  page : ∃ n m, q.page = some ⟨some n, m⟩

/-- One line for each predicate. -/
def conditionLines : List (List Token) → List (List Token)
  | [] => []
  | p :: ps => ([.where, .space] ++ p) :: ps.map ([.indent 1, .and, .space] ++ ·)

def orderLine (ts : List OrderTerm) : List Token :=
  [.orderBy, .space] ++ List.intercalate [.comma, .space] (ts.map (OrderTerm.tokens .postgres))

/-- The lines of a statement that selects one thing, in an order, from one table. -/
def lines (q : Query) : List (List Token) :=
  [.select] :: (q.select.map (fun e => .indent 1 :: e.tokens .postgres) ++
    q.source.toList.map ([.from, .space] ++ ·.tokens) ++ q.joins.map (Join.tokens .postgres) ++
    conditionLines (q.predicates.map (Expr.tokens .postgres)) ++ [orderLine q.order] ++
    q.page.toList.map Page.limitTokens)

theorem whereTokens_eq_lines (q : Query) :
    q.whereTokens .postgres =
      (conditionLines (q.predicates.map (Expr.tokens .postgres))).flatMap (.newline :: ·) := by
  unfold whereTokens
  cases q.predicates.map (Expr.tokens .postgres) with
  | nil => rfl
  | cons p ps =>
    have hne : (p :: ps).isEmpty = false := rfl
    rw [clause, hne, intercalate_cons_eq, conditionLines, List.flatMap_cons, List.flatMap_map]
    rfl

/-- An order that says something is written alike by all dialects. -/
theorem orderTokens_eq {d : Dialect} {q : Query} (h : q.order ≠ []) :
    q.orderTokens d = [.newline, .orderBy, .space] ++
      List.intercalate [.comma, .space] (q.order.map (OrderTerm.tokens d)) := by
  have hne : q.order.isEmpty = false := by simpa using h
  rw [orderTokens, hne, clause, List.isEmpty_map, hne]
  rfl

theorem orderTokens_eq_line {q : Query} (h : q.order ≠ []) :
    q.orderTokens .postgres = .newline :: orderLine q.order := orderTokens_eq h

theorem tokens_eq_lines {q : Query} (h : q.Legible) :
    q.tokens .postgres = List.intercalate [.newline] q.lines := by
  obtain ⟨a, ha⟩ := h.select
  have hselect : q.selectTokens .postgres = .select ::
      (q.select.map fun e => .indent 1 :: e.tokens .postgres).flatMap (.newline :: ·) := by
    simp [selectTokens, ha, clause]
  have hsource : q.sourceTokens =
      (q.source.toList.map ([.from, .space] ++ ·.tokens)).flatMap (.newline :: ·) := by
    unfold sourceTokens
    cases q.source <;> simp
  have hjoins : q.joinTokens .postgres =
      (q.joins.map (Join.tokens .postgres)).flatMap (.newline :: ·) := by
    rw [joinTokens, List.flatMap_map]
  have hpage : q.pageTokens .postgres =
      (q.page.toList.map Page.limitTokens).flatMap (.newline :: ·) := by
    unfold pageTokens
    cases q.page <;> simp [Page.tokens]
  rw [lines, intercalate_cons_eq, tokens, hselect, hsource, hjoins, whereTokens_eq_lines,
    orderTokens_eq_line h.ordered, hpage]
  simp

/-! No line is broken -/

theorem newline_notMem_flat {a c : String} {e : Expr} (h : Flat (.column (some a) c) e) :
    .newline ∉ e.tokens .postgres := fun hm => Bool.noConfusion (Expr.inPredicate_tokens h _ hm)

theorem newline_notMem_conditionLines {ps : List (List Token)} (h : ∀ p ∈ ps, .newline ∉ p) :
    ∀ l ∈ conditionLines ps, .newline ∉ l := by
  cases ps with
  | nil => simp [conditionLines]
  | cons p ps =>
    obtain ⟨hp, hps⟩ := List.forall_mem_cons.1 h
    refine List.forall_mem_cons.2 ⟨by simp [hp], List.forall_mem_map.2 fun p' hp' => ?_⟩
    simp [hps p' hp']

theorem newline_notMem_orderLine {ts : List OrderTerm}
    (h : ∀ t ∈ ts, ∃ a c, t.expr = .column (some a) c) : .newline ∉ orderLine ts := by
  have hterms : .newline ∉ List.intercalate [.comma, .space]
      (ts.map (OrderTerm.tokens .postgres)) := by
    refine notMem_intercalate (by simp) (List.forall_mem_map.2 fun t ht => ?_)
    obtain ⟨a, c, he⟩ := h t ht
    cases hd : t.direction <;>
      simp [OrderTerm.tokens, he, hd, Expr.tokens, Expr.qualifier, directionToken]
  simp [orderLine, hterms]

theorem newline_notMem_lines {q : Query} (h : q.Legible) : ∀ l ∈ q.lines, .newline ∉ l := by
  obtain ⟨a, hselect⟩ := h.select
  obtain ⟨schema, name, b, hsource⟩ := h.source
  obtain ⟨n, m, hpage⟩ := h.page
  have hjoins : ∀ l ∈ q.joins.map (Join.tokens .postgres), .newline ∉ l := by
    refine List.forall_mem_map.2 fun j hj => ?_
    cases h.joins j hj
    simp [Join.tokens, Table.tokens, Expr.tokens, Expr.compareTokens, Expr.qualifier,
      Comparison.token]
  have hwhere : ∀ l ∈ conditionLines (q.predicates.map (Expr.tokens .postgres)), .newline ∉ l := by
    refine newline_notMem_conditionLines (List.forall_mem_map.2 fun e he => ?_)
    obtain ⟨a, c, hf⟩ := h.predicates e he
    exact newline_notMem_flat hf
  have hlimit : .newline ∉ Page.limitTokens ⟨some n, m⟩ := by
    cases m <;> simp [Page.limitTokens]
  simp only [lines, hselect, hsource, hpage, List.forall_mem_cons, List.forall_mem_append]
  refine ⟨by simp, ⟨⟨⟨⟨?_, ?_⟩, hjoins⟩, hwhere⟩, ?_⟩, ?_⟩
  · simp [Expr.tokens, Expr.qualifier]
  · simp [Table.tokens]
  · simpa using newline_notMem_orderLine h.order
  · simpa using hlimit

/-! Reading the lines -/

section

variable (q : Query)

theorem readLine?_join {j : Join} (h : j.OnColumns) :
    readLine? q (j.tokens .postgres) = some (q.addJoin j) := by
  cases h
  rfl

theorem readLine?_joins {js : List Join} (h : ∀ j ∈ js, j.OnColumns) :
    (js.map (Join.tokens .postgres)).foldlM readLine? q =
      some { q with joins := q.joins ++ js } := by
  induction js generalizing q with
  | nil => simp
  | cons j js ih =>
    obtain ⟨hj, hjs⟩ := List.forall_mem_cons.1 h
    rw [List.map_cons, List.foldlM_cons, readLine?_join q hj, Option.bind_eq_bind,
      Option.bind_some, ih _ hjs, addJoin, List.append_assoc]
    rfl

/-- A predicate is read from its line, the first or another one. -/
theorem readLine?_predicate {e : Expr} (h : ∃ a c, Flat (.column (some a) c) e) :
    readLine? q ([.where, .space] ++ e.tokens .postgres) = some (q.addPredicate e.settled) ∧
    readLine? q ([.indent 1, .and, .space] ++ e.tokens .postgres) =
      some (q.addPredicate e.settled) := by
  obtain ⟨a, c, hf⟩ := h
  have hread : (do return q.addPredicate (← Expr.ofTokens? (e.tokens .postgres))) =
      some (q.addPredicate e.settled) := by
    rw [Expr.ofTokens?_tokens hf]
    rfl
  exact ⟨hread, hread⟩

theorem readLine?_predicates {ps : List Expr} (h : ∀ e ∈ ps, ∃ a c, Flat (.column (some a) c) e) :
    (conditionLines (ps.map (Expr.tokens .postgres))).foldlM readLine? q =
      some { q with predicates := q.predicates ++ ps.map Expr.settled } := by
  have rest {ps : List Expr} (h : ∀ e ∈ ps, ∃ a c, Flat (.column (some a) c) e) (q : Query) :
      ((ps.map (Expr.tokens .postgres)).map ([.indent 1, .and, .space] ++ ·)).foldlM readLine? q =
        some { q with predicates := q.predicates ++ ps.map Expr.settled } := by
    induction ps generalizing q with
    | nil => simp
    | cons p ps ih =>
      obtain ⟨hp, hps⟩ := List.forall_mem_cons.1 h
      rw [List.map_cons, List.map_cons, List.foldlM_cons, (readLine?_predicate q hp).2,
        Option.bind_eq_bind, Option.bind_some, ih hps, addPredicate, List.append_assoc]
      rfl
  cases ps with
  | nil => simp [conditionLines]
  | cons p ps =>
    obtain ⟨hp, hps⟩ := List.forall_mem_cons.1 h
    rw [List.map_cons, conditionLines, List.foldlM_cons, (readLine?_predicate q hp).1,
      Option.bind_eq_bind, Option.bind_some, rest hps, addPredicate, List.append_assoc]
    rfl

theorem readTerms_append {t : OrderTerm} (h : ∃ a c, t.expr = .column (some a) c)
    (ts : List Token) :
    readTerms (t.tokens .postgres ++ ts) = t :: readTerms ts := by
  obtain ⟨expr, dir⟩ := t
  obtain ⟨a, c, rfl⟩ := h
  cases dir <;> rfl

theorem readLine?_order {ts : List OrderTerm} (h : ∀ t ∈ ts, ∃ a c, t.expr = .column (some a) c)
    (hne : ts ≠ []) : readLine? q (orderLine ts) = some (q.withOrder ts) := by
  have rest {ts : List OrderTerm} (h : ∀ t ∈ ts, ∃ a c, t.expr = .column (some a) c) :
      readTerms ((ts.map (OrderTerm.tokens .postgres)).flatMap ([.comma, .space] ++ ·)) = ts := by
    induction ts with
    | nil => rfl
    | cons t ts ih =>
      obtain ⟨ht, hts⟩ := List.forall_mem_cons.1 h
      rw [List.map_cons, List.flatMap_cons, List.append_assoc]
      exact (readTerms_append ht _).trans (congrArg (t :: ·) (ih hts))
  have hread : readTerms (List.intercalate [.comma, .space]
      (ts.map (OrderTerm.tokens .postgres))) = ts := by
    cases ts with
    | nil => exact absurd rfl hne
    | cons t ts =>
      obtain ⟨ht, hts⟩ := List.forall_mem_cons.1 h
      rw [List.map_cons, intercalate_cons_eq, readTerms_append ht, rest hts]
  exact congrArg (fun ts => some (q.withOrder ts)) hread

theorem readLine?_page (n : UInt64) (m : Option UInt64) (hq : q.page = none) :
    readLine? q (Page.limitTokens ⟨some n, m⟩) = some { q with page := some ⟨some n, m⟩ } := by
  cases m with
  | none =>
    have hread : readLine? q (Page.limitTokens ⟨some n, none⟩) = some (q.withLimit n) := rfl
    rw [hread, withLimit, hq]
    rfl
  | some m =>
    have hread : readLine? q (Page.limitTokens ⟨some n, some m⟩) =
        some ((q.withLimit n).withOffset m) := rfl
    rw [hread, withOffset, withLimit, hq]
    rfl

end

/-- Reading the lines of a query in turn builds it up again. -/
theorem foldlM_readLine?_lines {q : Query} (h : q.Legible) :
    q.lines.foldlM readLine? {} = some { q with predicates := q.predicates.map Expr.settled } := by
  obtain ⟨a, hselect⟩ := h.select
  obtain ⟨schema, name, b, hsource⟩ := h.source
  obtain ⟨n, m, hpage⟩ := h.page
  obtain ⟨select, source, joins, predicates, order, page⟩ := q
  obtain rfl : select = _ := hselect
  obtain rfl : source = _ := hsource
  obtain rfl : page = _ := hpage
  -- the lines before the joins are always the same three
  have hhead : ([[.select], .indent 1 :: Expr.tokens .postgres (.star (some a)),
      [.from, .space] ++ Table.tokens ⟨name, schema, some b⟩] : List (List Token)).foldlM readLine?
        {} = some { select := [.star (some a)], source := some ⟨name, schema, some b⟩ } := rfl
  have hlines : lines ⟨[.star (some a)], some ⟨name, schema, some b⟩, joins, predicates, order,
      some ⟨some n, m⟩⟩ =
      [[.select], .indent 1 :: Expr.tokens .postgres (.star (some a)),
        [.from, .space] ++ Table.tokens ⟨name, schema, some b⟩] ++
      joins.map (Join.tokens .postgres) ++
      conditionLines (predicates.map (Expr.tokens .postgres)) ++
      [orderLine order, Page.limitTokens ⟨some n, m⟩] := by
    simp [lines]
  rw [hlines, List.foldlM_append, List.foldlM_append, List.foldlM_append, hhead]
  simp only [Option.bind_eq_bind, Option.bind_some, readLine?_joins _ h.joins,
    readLine?_predicates _ h.predicates, List.foldlM_cons, readLine?_order _ h.order h.ordered]
  exact congrArg (Option.bind · pure) (readLine?_page _ n m rfl)

/-- Only the predicates of such a query may have an empty list in them. -/
theorem settled_eq {q : Query} (hs : ∃ a, q.select = [.star (some a)])
    (hj : ∀ j ∈ q.joins, j.OnColumns) (ho : ∀ t ∈ q.order, ∃ a c, t.expr = .column (some a) c) :
    q.settled = { q with predicates := q.predicates.map Expr.settled } := by
  have hselect : q.select.map Expr.settled = q.select := by
    obtain ⟨a, ha⟩ := hs
    rw [ha]
    rfl
  have hjoins : (q.joins.map fun j => { j with condition := j.condition.settled }) = q.joins := by
    refine (List.map_congr_left fun j hm => ?_).trans (List.map_id _)
    cases hj j hm
    rfl
  have horder : (q.order.map fun t => { t with expr := t.expr.settled }) = q.order := by
    refine (List.map_congr_left fun t ht => ?_).trans (List.map_id _)
    obtain ⟨expr, dir⟩ := t
    obtain ⟨a, c, rfl⟩ := ho _ ht
    rfl
  rw [settled, mapExprs, hselect, hjoins, horder]

/-- The statement of a legible query is read back to the settled query. -/
theorem ofTokens?_tokens {q : Query} (h : q.Legible) :
    ofTokens? (q.tokens .postgres) = some q.settled := by
  rw [ofTokens?, tokens_eq_lines h, List.splitOn_intercalate _ (newline_notMem_lines h)
    (List.cons_ne_nil _ _), foldlM_readLine?_lines h, settled_eq h.select h.joins h.order]

end Query

end Sql

/-! Compiled queries -/

open Compile
open EntityQuery.Sql (Query)

theorem Spec.legible_toQuery {spec : Spec} {schema : Schema} {codec : Codec}
    {fallbackLimit : UInt64} {entity : String} {q : Query}
    (h : spec.toQuery schema codec fallbackLimit entity = .ok q) : q.Legible := by
  obtain ⟨e, p, limit, offset, -, -, -, hp, rfl⟩ := Spec.exists_plan_of_toQuery h
  have hflat := (planned_of_plan _ hp).isFlat_place (Aliases.allocate {} e.table).2
  refine ⟨⟨sourceName e, ?_⟩, ⟨e.schema, e.table, sourceName e, ?_⟩, ?_, ?_, ?_, ?_, ?_⟩
  · rw [select_addPage]
    rfl
  · rw [source_addPage]
    rfl
  · rw [joins_addPage]
    exact Plan.onColumns_of_mem_joins _ _
  · rw [predicates_addPage]
    intro r hr
    obtain ⟨x, -, r, hf, rfl⟩ := Plan.exists_flat_of_mem_predicates hflat hr
    exact ⟨x.2, x.1.column, hf.qualify⟩
  · simp [Plan.query]
  · rw [order_addPage]
    refine List.forall_mem_append.2 ⟨Plan.exists_column_of_mem_orderTerms _ _, ?_⟩
    exact List.forall_mem_singleton.2 ⟨_, _, rfl⟩
  · cases offset
    · exact ⟨limit, none, rfl⟩
    · exact ⟨limit, some _, rfl⟩

/-- The statement of a compiled query is read back, settled. -/
theorem Spec.ofTokens?_toQuery {spec : Spec} {schema : Schema} {codec : Codec}
    {fallbackLimit : UInt64} {entity : String} {q : Query}
    (h : spec.toQuery schema codec fallbackLimit entity = .ok q) :
    Query.ofTokens? (q.tokens .postgres) = some q.settled :=
  Query.ofTokens?_tokens (legible_toQuery h)

/-- Two compiled queries have the same tokens just if they are equal once settled. -/
theorem Spec.tokens_toQuery_inj {spec spec' : Spec} {schema schema' : Schema}
    {codec codec' : Codec} {fallbackLimit fallbackLimit' : UInt64} {entity entity' : String}
    {q q' : Query} (h : spec.toQuery schema codec fallbackLimit entity = .ok q)
    (h' : spec'.toQuery schema' codec' fallbackLimit' entity' = .ok q') :
    q.tokens .postgres = q'.tokens .postgres ↔ q.settled = q'.settled := by
  constructor
  · intro he
    have hread := congrArg Query.ofTokens? he
    rw [Spec.ofTokens?_toQuery h, Spec.ofTokens?_toQuery h'] at hread
    exact Option.some.inj hread
  · intro he
    rw [← Query.tokens_settled, he, Query.tokens_settled]

namespace Staff

/-- A query for the people whose name is among none. -/
def nobody (membership : Sql.Expr) : Query where
  select := [.star (some "p0")]
  source := some ⟨"people", some "hr", some "p0"⟩
  predicates := [membership]
  order := [⟨.column (some "p0") "id", .asc⟩]
  page := some { limit := some 10 }

/-- One is zero. -/
def oneIsZero : Sql.Expr := .compare .eq (.literal (.int 1)) (.literal (.int 0))

theorem toQuery_list_nil :
    Spec.toQuery { filter := ⟨[("name", .list [])]⟩ } schema .plain 10 "Person" =
      .ok (nobody oneIsZero) := by rfl

theorem toQuery_inList_nil :
    Spec.toQuery { filter := ⟨[("name", .compare .inList (.list []))]⟩ } schema .plain 10
      "Person" = .ok (nobody (.inList (.column (some "p0") "full_name") [])) := by rfl

theorem tokens_nobody :
    Spec.toQuery { filter := ⟨[("name", .list [])]⟩ } schema .plain 10 "Person" =
      .ok (nobody oneIsZero) ∧
    Spec.toQuery { filter := ⟨[("name", .compare .inList (.list []))]⟩ } schema .plain 10
      "Person" = .ok (nobody (.inList (.column (some "p0") "full_name") [])) ∧
    ((nobody oneIsZero).tokens .postgres =
        (nobody (.inList (.column (some "p0") "full_name") [])).tokens .postgres ↔
      (nobody oneIsZero).settled =
        (nobody (.inList (.column (some "p0") "full_name") [])).settled) :=
  ⟨toQuery_list_nil, toQuery_inList_nil,
    Spec.tokens_toQuery_inj toQuery_list_nil toQuery_inList_nil⟩

end Staff

end EntityQuery
