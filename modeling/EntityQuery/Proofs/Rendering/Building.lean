import EntityQuery.Proofs.Rendering.Dialects
import Mathlib.Data.List.Basic

/-!
Pages of queries that are built by hand. Whatever is asked of a query, in whatever order and however
often, T-SQL writes rows to skip after an order and rows to fetch after those to skip, no other
dialect fetches, and a query that was never given a page has none. Only MySQL can be given something
that it does not read: rows to skip without a limit.
-/

namespace EntityQuery.Sql

/-- What is done to a query while it is built. -/
inductive Query.Call where
  | select (es : List Expr)
  | source (t : Table)
  | join (j : Join)
  | predicate (e : Expr)
  | order (ts : List OrderTerm)
  | addOrder (t : OrderTerm)
  | limit (n : UInt64)
  | offset (n : UInt64)

namespace Query

def Call.isLimit : Call → Bool
  | .limit _ => true
  | _ => false

def Call.isOffset : Call → Bool
  | .offset _ => true
  | _ => false

def call (q : Query) : Call → Query
  | .select es => q.withSelect es
  | .source t => q.withSource t
  | .join j => q.addJoin j
  | .predicate e => q.addPredicate e
  | .order ts => q.withOrder ts
  | .addOrder t => q.addOrder t
  | .limit n => q.withLimit n
  | .offset n => q.withOffset n

/-- The query that the calls make of an empty one. -/
def build (calls : List Call) : Query := calls.foldl call empty

/-! What calls leave behind -/

/-- What no call brings back holds in the end if every call left it. -/
theorem build_iff {P : Query → Prop} {A : Call → Prop} (hempty : P empty)
    (hstep : ∀ q c, P (q.call c) ↔ P q ∧ A c) (calls : List Call) :
    P (build calls) ↔ ∀ c ∈ calls, A c := by
  suffices ∀ q, P (calls.foldl call q) ↔ P q ∧ ∀ c ∈ calls, A c from
    (this empty).trans (and_iff_right hempty)
  induction calls with
  | nil => simp
  | cons c calls ih =>
    intro q
    rw [List.foldl_cons, ih, hstep, List.forall_mem_cons, and_assoc]

/-- The limit of the query's page, if it has both. -/
def limit? (q : Query) : Option UInt64 := q.page.bind (·.limit)

/-- The offset of the query's page, if it has both. -/
def offset? (q : Query) : Option UInt64 := q.page.bind (·.offset)

variable {q : Query} {c : Call} {calls : List Call}

theorem page_call_eq_none_iff :
    (q.call c).page = none ↔ q.page = none ∧ c.isLimit = false ∧ c.isOffset = false := by
  cases c <;> simp [call, withSelect, withSource, addJoin, addPredicate, withOrder, addOrder,
    withLimit, withOffset, Call.isLimit, Call.isOffset]

theorem limit?_call_eq_none_iff :
    (q.call c).limit? = none ↔ q.limit? = none ∧ c.isLimit = false := by
  cases c <;> cases hp : q.page <;> simp [limit?, call, withSelect, withSource, addJoin,
    addPredicate, withOrder, addOrder, withLimit, withOffset, Call.isLimit, hp]

theorem offset?_call_eq_none_iff :
    (q.call c).offset? = none ↔ q.offset? = none ∧ c.isOffset = false := by
  cases c <;> cases hp : q.page <;> simp [offset?, call, withSelect, withSource, addJoin,
    addPredicate, withOrder, addOrder, withLimit, withOffset, Call.isOffset, hp]

theorem page_build_eq_none_iff :
    (build calls).page = none ↔ ∀ c ∈ calls, c.isLimit = false ∧ c.isOffset = false :=
  build_iff (P := fun q => q.page = none) rfl (fun _ _ => page_call_eq_none_iff) calls

theorem limit?_build_eq_none_iff :
    (build calls).limit? = none ↔ ∀ c ∈ calls, c.isLimit = false :=
  build_iff (P := fun q => q.limit? = none) rfl (fun _ _ => limit?_call_eq_none_iff) calls

theorem offset?_build_eq_none_iff :
    (build calls).offset? = none ↔ ∀ c ∈ calls, c.isOffset = false :=
  build_iff (P := fun q => q.offset? = none) rfl (fun _ _ => offset?_call_eq_none_iff) calls

end Query

/-! Places of pages -/

/-- Whether a token belongs to a page. -/
def Token.inPage : Token → Bool
  | .limit | .offset | .fetch | .next | .rows | .only | .count _ => true
  | _ => false

theorem Token.inPage_of_inBody {d : Dialect} {t : Token} (h : t.inBody d = true) :
    t.inPage = false := by
  cases t <;> first | rfl | exact absurd h Bool.false_ne_true

/-- An order clause has just ended. -/
def AfterOrder (ts : List Token) : Prop :=
  ∃ body terms : List Token, terms ≠ [] ∧
    ts = body ++ [.newline, .orderBy, .space] ++ terms ++ [.newline]

/-- A count of rows to skip stands right before. -/
def AfterRows (ts : List Token) : Prop :=
  ∃ (body : List Token) (n : UInt64),
    ts = body ++ [.offset, .space, .count n, .space, .rows, .space]

/-- A limit stands right before. -/
def AfterLimit (ts : List Token) : Prop :=
  ∃ (body : List Token) (n : UInt64), ts = body ++ [.limit, .space, .count n, .space]

namespace Query

variable {d : Dialect} {q : Query} {before after lead : List Token}

/-- A token that stands in no body stands in the page. -/
theorem exists_page_split {t : Token} (ht : t.inBody d = false)
    (h : q.tokens d = before ++ t :: after) :
    ∃ lead, before = q.bodyTokens d ++ lead ∧ q.pageTokens d = lead ++ t :: after := by
  rw [tokens_eq_body] at h
  rcases List.append_eq_append_iff.1 h with ⟨lead, hbefore, hpage⟩ | ⟨rest, hbody, hafter⟩
  · exact ⟨lead, hbefore, hpage⟩
  · cases rest with
    | nil => exact ⟨[], by simpa using hbody.symm, hafter.symm⟩
    | cons x rest =>
      obtain ⟨rfl, -⟩ := List.cons.inj hafter
      have hmem : t ∈ q.bodyTokens d := hbody ▸ List.mem_append_right _ List.mem_cons_self
      exact absurd (ht.symm.trans (q.inBody_bodyTokens t hmem)) Bool.false_ne_true

/-! Rows to skip and rows to fetch -/

theorem lead_of_offset_rows {n : UInt64} {m : Option UInt64}
    (h : .newline :: rowsTokens n m = lead ++ .offset :: after) : lead = [.newline] := by
  cases m <;>
  · simp [rowsTokens, List.cons_eq_append_iff] at h
    exact h.1

theorem lead_of_fetch_rows {n : UInt64} {m : Option UInt64}
    (h : .newline :: rowsTokens n m = lead ++ .fetch :: after) :
    lead = .newline :: [.offset, .space, .count n, .space, .rows, .space] := by
  cases m with
  | none => simp [rowsTokens, List.cons_eq_append_iff] at h
  | some m =>
    simp [rowsTokens, List.cons_eq_append_iff] at h
    exact h.1

theorem limit_notMem_rows (n : UInt64) (m : Option UInt64) : .limit ∉ rowsTokens n m := by
  cases m <;> simp [rowsTokens]

/-- A page of T-SQL comes with an order, if need be with one that says nothing. -/
theorem exists_orderTokens_tsql (hp : q.page.isSome = true) :
    ∃ terms : List Token, terms ≠ [] ∧
      q.orderTokens .tsql = [.newline, .orderBy, .space] ++ terms := by
  unfold orderTokens
  cases ho : q.order with
  | nil =>
    refine ⟨[.openParen, .select, .space, .null, .closeParen], List.cons_ne_nil _ _, ?_⟩
    simp [hp, Dialect.pagesNeedOrder, anyOrderTokens]
  | cons term terms =>
    refine ⟨List.intercalate [.comma, .space] ((term :: terms).map (OrderTerm.tokens .tsql)),
      ?_, ?_⟩
    · simp [intercalate_cons_eq, OrderTerm.tokens]
    · simp [clause]

theorem afterOrder_of_offset (h : q.tokens .tsql = before ++ .offset :: after) :
    AfterOrder before := by
  obtain ⟨lead, rfl, hpage⟩ := exists_page_split rfl h
  rw [pageTokens_tsql] at hpage
  cases hp : q.page with
  | none => simp [hp] at hpage
  | some p =>
    rw [hp] at hpage
    obtain ⟨terms, hne, horder⟩ := exists_orderTokens_tsql (q := q) (by rw [hp]; rfl)
    refine ⟨q.selectTokens .tsql ++ q.sourceTokens ++ q.joinTokens .tsql ++ q.whereTokens .tsql,
      terms, hne, ?_⟩
    rw [lead_of_offset_rows hpage, bodyTokens, horder, ← List.append_assoc]

theorem afterRows_of_fetch (h : q.tokens .tsql = before ++ .fetch :: after) :
    AfterRows before := by
  obtain ⟨lead, rfl, hpage⟩ := exists_page_split rfl h
  rw [pageTokens_tsql] at hpage
  cases hp : q.page with
  | none => simp [hp] at hpage
  | some p =>
    rw [hp] at hpage
    exact ⟨_, _, by rw [lead_of_fetch_rows hpage, List.append_cons]⟩

theorem limit_notMem_tsql (q : Query) : .limit ∉ q.tokens .tsql := by
  intro hm
  obtain ⟨before, after, h⟩ := List.append_of_mem hm
  obtain ⟨lead, -, hpage⟩ := exists_page_split rfl h
  have hlimit : .limit ∈ q.pageTokens .tsql := by simp [hpage]
  rw [pageTokens_tsql] at hlimit
  cases hp : q.page with
  | none => simp [hp] at hlimit
  | some p => simp [hp, limit_notMem_rows] at hlimit

/-! Limits and offsets -/

theorem fetch_notMem_counts (limit offset : Option UInt64) :
    .fetch ∉ countTokens limit offset := by
  cases limit <;> cases offset <;> simp [countTokens]

theorem fetch_notMem_of_ne_tsql (hd : d ≠ .tsql) (q : Query) : .fetch ∉ q.tokens d := by
  intro hm
  obtain ⟨before, after, h⟩ := List.append_of_mem hm
  obtain ⟨lead, -, hpage⟩ := exists_page_split rfl h
  have hfetch : .fetch ∈ q.pageTokens d := by simp [hpage]
  rw [pageTokens_of_ne_tsql hd] at hfetch
  cases hp : q.page with
  | none => simp [hp] at hfetch
  | some p => simp [hp, fetch_notMem_counts] at hfetch

/-- An offset follows the limit of its page, or the line break if the page has no limit. -/
theorem lead_of_offset_counts {limit offset : Option UInt64}
    (h : .newline :: countTokens limit offset = lead ++ .offset :: after) :
    offset.isSome = true ∧ lead = .newline :: limit.elim [] fun n =>
      [.limit, .space, .count n, .space] := by
  cases limit <;> cases offset <;>
    simp [countTokens, List.cons_eq_append_iff] at h ⊢
  all_goals exact h.1

theorem not_afterLimit_newline (ts : List Token) : ¬AfterLimit (ts ++ [.newline]) := by
  rintro ⟨body, n, h⟩
  have hlast := congrArg List.getLast? h
  simp at hlast

theorem afterLimit_iff (h : q.tokens .mysql = before ++ .offset :: after) :
    AfterLimit before ↔ q.limit? ≠ none := by
  obtain ⟨lead, rfl, hpage⟩ := exists_page_split rfl h
  rw [pageTokens_of_ne_tsql (by decide)] at hpage
  cases hp : q.page with
  | none => simp [hp] at hpage
  | some p =>
    rw [hp] at hpage
    obtain ⟨-, rfl⟩ := lead_of_offset_counts hpage
    cases hl : p.limit with
    | none => simp [limit?, hp, hl, not_afterLimit_newline]
    | some n =>
      have hafter : AfterLimit
          (q.bodyTokens .mysql ++ .newline :: [.limit, .space, .count n, .space]) :=
        ⟨q.bodyTokens .mysql ++ [.newline], n, by simp⟩
      simpa [limit?, hp, hl] using hafter

theorem offset_mem_mysql_iff : .offset ∈ q.tokens .mysql ↔ q.offset? ≠ none := by
  constructor
  · intro hm
    obtain ⟨before, after, h⟩ := List.append_of_mem hm
    obtain ⟨lead, -, hpage⟩ := exists_page_split rfl h
    rw [pageTokens_of_ne_tsql (by decide)] at hpage
    cases hp : q.page with
    | none => simp [hp] at hpage
    | some p =>
      rw [hp] at hpage
      have hsome := (lead_of_offset_counts hpage).1
      simpa [offset?, hp, Option.isSome_iff_ne_none] using hsome
  · intro ho
    rw [tokens_eq_body, pageTokens_of_ne_tsql (by decide)]
    cases hp : q.page with
    | none => simp [offset?, hp] at ho
    | some p =>
      obtain ⟨l, - | m⟩ := p
      · simp [offset?, hp] at ho
      · cases l <;> simp [countTokens]

/-- MySQL is given rows to skip without a limit just if there are rows to skip and no limit. -/
theorem offset_alone_mysql_iff :
    (∃ before after : List Token,
        q.tokens .mysql = before ++ .offset :: after ∧ ¬AfterLimit before) ↔
      q.offset? ≠ none ∧ q.limit? = none := by
  constructor
  · rintro ⟨before, after, h, hnot⟩
    rw [afterLimit_iff h, not_not] at hnot
    exact ⟨offset_mem_mysql_iff.1 (by simp [h]), hnot⟩
  · rintro ⟨ho, hl⟩
    obtain ⟨before, after, h⟩ := List.append_of_mem (offset_mem_mysql_iff.2 ho)
    exact ⟨before, after, h, by rwa [afterLimit_iff h, not_not]⟩

/-- However a query is built: in T-SQL, rows are skipped only after an order and no limit is
written; rows are fetched in T-SQL only, after those to skip; and what was never given a limit or an
offset has no page. MySQL is given an offset that does not follow a limit exactly if the query was
given an offset and never a limit. -/
theorem pages_build (calls : List Call) :
    (∀ before after, (build calls).tokens .tsql = before ++ .offset :: after →
      AfterOrder before) ∧
    (∀ d before after, (build calls).tokens d = before ++ .fetch :: after →
      d = .tsql ∧ AfterRows before) ∧
    .limit ∉ (build calls).tokens .tsql ∧
    ((∀ c ∈ calls, c.isLimit = false ∧ c.isOffset = false) →
      ∀ d, ∀ t ∈ (build calls).tokens d, t.inPage = false) ∧
    ((∃ before after : List Token, (build calls).tokens .mysql = before ++ .offset :: after ∧
        ¬AfterLimit before) ↔
      (∃ c ∈ calls, c.isOffset = true) ∧ ∀ c ∈ calls, c.isLimit = false) := by
  refine ⟨fun before after => afterOrder_of_offset, fun d before after h => ?_,
    limit_notMem_tsql _, fun hnone d t ht => ?_, ?_⟩
  · by_cases hd : d = .tsql
    · subst hd
      exact ⟨rfl, afterRows_of_fetch h⟩
    · exact absurd (by simp [h]) (fetch_notMem_of_ne_tsql hd (build calls))
  · rw [tokens_eq_body, pageTokens, page_build_eq_none_iff.2 hnone, List.append_nil] at ht
    exact Token.inPage_of_inBody (inBody_bodyTokens _ t ht)
  · rw [offset_alone_mysql_iff, limit?_build_eq_none_iff, ne_eq, offset?_build_eq_none_iff]
    simp

/-- Rows to skip, and no limit with them: MySQL cannot read this statement. -/
theorem offset_alone_mysql :
    (build [.offset 20]).tokens .mysql =
      [.select, .space, .star, .newline] ++ .offset :: [.space, .count 20] ∧
    ¬AfterLimit [.select, .space, .star, .newline] :=
  ⟨rfl, not_afterLimit_newline [.select, .space, .star]⟩

/-- A page of a query whose order was taken back, in T-SQL, and a query without a page. -/
theorem pages_unordered :
    (build [.limit 10, .offset 20, .order [⟨.column none "name", .asc⟩], .order []]).tokens .tsql =
      [.select, .space, .star, .newline, .orderBy, .space, .openParen, .select, .space, .null,
        .closeParen, .newline, .offset, .space, .count 20, .space, .rows, .space, .fetch, .space,
        .next, .space, .count 10, .space, .rows, .space, .only] ∧
    AfterOrder [.select, .space, .star, .newline, .orderBy, .space, .openParen, .select, .space,
      .null, .closeParen, .newline] ∧
    AfterRows [.select, .space, .star, .newline, .orderBy, .space, .openParen, .select, .space,
      .null, .closeParen, .newline, .offset, .space, .count 20, .space, .rows, .space] ∧
    ∀ d, ∀ t ∈ (build [.addOrder ⟨.column none "name", .asc⟩]).tokens d, t.inPage = false := by
  have htokens : (build [.limit 10, .offset 20, .order [⟨.column none "name", .asc⟩],
      .order []]).tokens .tsql = [.select, .space, .star, .newline, .orderBy, .space, .openParen,
        .select, .space, .null, .closeParen, .newline, .offset, .space, .count 20, .space, .rows,
        .space, .fetch, .space, .next, .space, .count 10, .space, .rows, .space, .only] := rfl
  obtain ⟨hoffset, hfetch, -⟩ := pages_build [.limit 10, .offset 20,
    .order [⟨.column none "name", .asc⟩], .order []]
  obtain ⟨-, -, -, hnone, -⟩ := pages_build [.addOrder ⟨.column none "name", .asc⟩]
  exact ⟨htokens, hoffset _ _ htokens, (hfetch .tsql _ _ htokens).2,
    hnone (List.forall_mem_singleton.2 ⟨rfl, rfl⟩)⟩

end Query

end EntityQuery.Sql
