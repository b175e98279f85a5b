import EntityQuery.Proofs.Acceptance.WellTyped
import EntityQuery.Proofs.Lexing.Statement
import EntityQuery.Proofs.Rendering.Reader

/-!
The pages of compiled queries. A spec whose page is out of range is refused before anything else in
it is looked at. Otherwise the limit and the offset arrive at the database: its statement ends, in
every dialect, in one page, after an order by columns, and the two numbers are read back from there.
-/

namespace EntityQuery

namespace Sql

open EntityQuery.Compile (Flat)

/-! Reading pages -/

namespace Lexeme

/-- Whether an order or a part of a page begins here. -/
def opensEnding : Lexeme → Bool
  | .word w => ["ORDER", "LIMIT", "OFFSET", "FETCH"].contains w
  | _ => false

/-- The number that decimal digits spell. -/
def count? : Lexeme → Option Nat
  | .number s =>
    if s.toList.all Char.isDigit then some (Nat.ofDigitChars 10 s.toList 0) else none
  | _ => none

theorem count?_number (n : Nat) : (Lexeme.number n.repr).count? = some n := by
  have hdigits : n.repr.toList = Nat.toDigits 10 n := Nat.toList_repr
  have hall : (Nat.toDigits 10 n).all Char.isDigit = true :=
    List.all_eq_true.2 (Lexing.isDigits_toDigits n).2
  rw [count?, hdigits, if_pos hall, Nat.ofDigitChars_ten_toDigits]

/-- Columns, each with a direction, with commas between any two. -/
inductive OrderList : List Lexeme → Prop
  | single (a c : String) {w : String} (h : w = "ASC" ∨ w = "DESC") :
    OrderList [.name a, .symbol ".", .name c, .word w]
  | cons (a c : String) {w : String} (h : w = "ASC" ∨ w = "DESC") {ls : List Lexeme}
    (hls : OrderList ls) :
    OrderList (.name a :: .symbol "." :: .name c :: .word w :: .symbol "," :: ls)

end Lexeme

/-- The limit and the offset of a page, as the dialect writes it; nothing but a page is read. -/
def Dialect.readPage? : Dialect → List Lexeme → Option (Nat × Nat)
  | .tsql, [.word "OFFSET", m, .word "ROWS", .word "FETCH", .word "NEXT", n, .word "ROWS",
      .word "ONLY"] => return (← n.count?, ← m.count?)
  | .tsql, _ => none
  | _, [.word "LIMIT", n] => return (← n.count?, 0)
  | _, [.word "LIMIT", n, .word "OFFSET", m] => return (← n.count?, ← m.count?)
  | _, _ => none

/-- The lexemes of a statement end in an order by columns and, after it, a page with this limit and
this offset; no other order and no other page is in them. -/
def Dialect.EndsInPage (d : Dialect) (ls : List Lexeme) (limit offset : Nat) : Prop :=
  ∃ body terms page, ls = body ++ [.word "ORDER", .word "BY"] ++ terms ++ page ∧
    (∀ l ∈ body ++ terms, l.opensEnding = false) ∧ Lexeme.OrderList terms ∧
    d.readPage? page = some (limit, offset)

/-! Tokens of other clauses -/

variable {d : Dialect}

/-- No order and no page begins among these tokens. -/
def Inner (d : Dialect) (ts : List Token) : Prop :=
  ∀ t ∈ ts, ∀ l ∈ t.lexemes d, l.opensEnding = false

namespace Inner

variable {ts us : List Token}

theorem of_all (h : ts.all (fun t => (t.lexemes d).all (!·.opensEnding)) = true) :
    Inner d ts := by
  simpa only [Inner, List.all_eq_true, Bool.not_eq_true'] using h

theorem lexemes (h : Inner d ts) : ∀ l ∈ ts.flatMap (Token.lexemes d), l.opensEnding = false :=
  List.forall_mem_flatMap.2 h

theorem append (ht : Inner d ts) (hu : Inner d us) : Inner d (ts ++ us) :=
  List.forall_mem_append.2 ⟨ht, hu⟩

theorem clause {opening separator : List Token} {parts : List (List Token)}
    (ho : Inner d opening) (hs : Inner d separator) (h : ∀ p ∈ parts, Inner d p) :
    Inner d (Query.clause opening separator parts) := by
  unfold Query.clause
  split
  · exact of_all rfl
  · exact ho.append (forall_mem_intercalate hs h)

end Inner

theorem Token.not_opensEnding {t : Token} (h : t.inPredicate = true) :
    ∀ l ∈ t.lexemes d, l.opensEnding = false := by
  cases t with
  | function f =>
    obtain rfl : f = "LOWER" := eq_of_beq h
    cases d <;> decide
  | bool b => cases d <;> cases b <;> decide
  | orderBy | limit | offset | fetch | qualified => exact absurd h Bool.false_ne_true
  | _ => simp [lexemes, keywords, Lexeme.opensEnding]

theorem inner_flat {a c : String} {e : Expr} (h : Flat (.column (some a) c) e) :
    Inner d (e.tokens d) :=
  fun t ht => Token.not_opensEnding (Expr.inPredicate_tokens h t ht)

theorem inner_table (t : Table) : Inner d t.tokens := by
  obtain ⟨name, - | schema, - | asName⟩ := t <;> exact .of_all rfl

theorem inner_join {j : Join} (h : j.OnColumns) : Inner d (.newline :: j.tokens d) := by
  have hopening : Inner d [.newline, .inner, .space, .join, .space] := .of_all rfl
  have hcondition : Inner d (j.condition.tokens d) := by
    cases h with
    | intro => exact .of_all rfl
  exact ((hopening.append (inner_table _)).append (.of_all rfl)).append hcondition

/-- What stands before the order. -/
theorem inner_body {q : Query} (h : q.Legible) :
    Inner d (q.selectTokens d ++ q.sourceTokens ++ q.joinTokens d ++ q.whereTokens d) := by
  have hselect : Inner d (q.selectTokens d) := by
    obtain ⟨a, ha⟩ := h.select
    rw [Query.selectTokens, ha]
    exact .of_all rfl
  have hsource : Inner d q.sourceTokens := by
    unfold Query.sourceTokens
    cases q.source with
    | none => exact .of_all rfl
    | some t => exact .append (.of_all rfl) (inner_table t)
  have hjoins : Inner d (q.joinTokens d) :=
    List.forall_mem_flatMap.2 fun j hj => inner_join (h.joins j hj)
  have hwhere : Inner d (q.whereTokens d) := by
    refine .clause (.of_all rfl) (.of_all rfl) (List.forall_mem_map.2 fun e he => ?_)
    obtain ⟨a, c, hf⟩ := h.predicates e he
    exact inner_flat hf
  exact ((hselect.append hsource).append hjoins).append hwhere

/-! The order and the page -/

theorem orderList_terms {ts : List OrderTerm} (hne : ts ≠ [])
    (h : ∀ t ∈ ts, ∃ a c, t.expr = .column (some a) c) :
    Lexeme.OrderList ((List.intercalate [.comma, .space]
      (ts.map (OrderTerm.tokens d))).flatMap (Token.lexemes d)) := by
  induction ts with
  | nil => exact absurd rfl hne
  | cons t ts ih =>
    obtain ⟨⟨a, c, ht⟩, hts⟩ := List.forall_mem_cons.1 h
    obtain ⟨w, hw, hterm⟩ : ∃ w, (w = "ASC" ∨ w = "DESC") ∧
        (t.tokens d).flatMap (Token.lexemes d) =
          [.name a, .symbol ".", .name c, .word w] := by
      rw [OrderTerm.tokens, ht]
      cases t.direction
      · exact ⟨"ASC", .inl rfl, rfl⟩
      · exact ⟨"DESC", .inr rfl, rfl⟩
    cases ts with
    | nil =>
      rw [List.map_cons, List.map_nil, List.intercalate_singleton, hterm]
      exact .single a c hw
    | cons t' ts =>
      rw [List.map_cons, List.map_cons, List.intercalate_cons_cons, List.flatMap_append,
        List.flatMap_append, hterm]
      exact .cons a c hw (ih (List.cons_ne_nil _ _) hts)

theorem Lexeme.OrderList.not_opensEnding {ls : List Lexeme} (h : OrderList ls) :
    ∀ l ∈ ls, l.opensEnding = false := by
  have hword {w : String} (hw : w = "ASC" ∨ w = "DESC") : (Lexeme.word w).opensEnding = false := by
    rcases hw with rfl | rfl <;> rfl
  induction h with
  | single a c hw => simpa using ⟨rfl, rfl, rfl, hword hw⟩
  | cons a c hw hls ih => simpa [hword hw] using ⟨rfl, rfl, rfl, rfl, ih⟩

theorem readPage?_page {q : Query} {n : UInt64} {m : Option UInt64}
    (hp : q.page = some ⟨some n, m⟩) :
    d.readPage? ((q.pageTokens d).flatMap (Token.lexemes d)) =
      some (n.toNat, (m.getD 0).toNat) := by
  rw [Query.pageTokens, hp]
  cases d <;> cases m <;>
    simp [Page.tokens, Page.limitTokens, Page.fetchTokens, Token.lexemes, Token.keywords,
      Dialect.readPage?, Lexeme.count?_number]

/-- A statement is its body, an order by columns and a page. -/
theorem Query.exists_lexemes_eq {q : Query} (h : q.Legible) :
    ∃ body terms, (∀ l ∈ body ++ terms, l.opensEnding = false) ∧ Lexeme.OrderList terms ∧
      (q.tokens d).flatMap (Token.lexemes d) = body ++ [.word "ORDER", .word "BY"] ++ terms ++
        (q.pageTokens d).flatMap (Token.lexemes d) := by
  have hbody := (inner_body (d := d) h).lexemes
  have horder := orderList_terms (d := d) h.ordered h.order
  refine ⟨_, _, List.forall_mem_append.2 ⟨hbody, horder.not_opensEnding⟩, horder, ?_⟩
  rw [Query.tokens, Query.orderTokens_eq h.ordered, List.flatMap_append, List.flatMap_append,
    List.flatMap_append]
  simp [Token.lexemes, Token.keywords]

theorem Query.endsInPage {q : Query} (h : q.Legible) {n : UInt64} {m : Option UInt64}
    (hp : q.page = some ⟨some n, m⟩) :
    d.EndsInPage ((q.tokens d).flatMap (Token.lexemes d)) n.toNat (m.getD 0).toNat := by
  obtain ⟨body, terms, hinner, horder, he⟩ := Query.exists_lexemes_eq (d := d) h
  exact ⟨body, terms, _, he, hinner, horder, readPage?_page hp⟩

/-- Only T-SQL writes an offset that a page does not have. -/
theorem Query.offset_notMem_lexemes {q : Query} (h : q.Legible) {n : UInt64}
    (hp : q.page = some ⟨some n, none⟩) (hd : d ≠ .tsql) :
    .word "OFFSET" ∉ (q.tokens d).flatMap (Token.lexemes d) := by
  obtain ⟨body, terms, hinner, -, he⟩ := Query.exists_lexemes_eq (d := d) h
  have hpage : (q.pageTokens d).flatMap (Token.lexemes d) =
      [.word "LIMIT", .number (toString n.toNat)] := by
    rw [Query.pageTokens, hp]
    cases d with
    | tsql => exact absurd rfl hd
    | _ => rfl
  intro hm
  rw [he, hpage] at hm
  have hopens : (Lexeme.word "OFFSET").opensEnding = true := rfl
  have hnot : .word "OFFSET" ∉ body ++ terms := fun hb =>
    Bool.false_ne_true ((hinner _ hb).symm.trans hopens)
  simp only [List.mem_append, not_or] at hnot
  simp [hnot] at hm

end Sql

/-! Compiled queries -/

open Compile
open EntityQuery.Sql (Dialect Query)

theorem Compile.page_addPage {q : Query} (h : q.page = none) (limit : UInt64)
    (offset : Option UInt64) : (addPage q limit offset).page = some ⟨some limit, offset⟩ := by
  cases offset <;> simp [addPage, Query.withLimit, Query.withOffset, h]

/-- What remains of an offset: the number itself, but nothing of zero. -/
theorem Compile.eq_of_checkOffset {offset o : Option UInt64} (h : checkOffset offset = .ok o) :
    o.getD 0 = offset.getD 0 ∧ (offset.getD 0 = 0 → o = none) := by
  cases offset with
  | none =>
    cases h
    exact ⟨rfl, fun _ => rfl⟩
  | some n =>
    obtain ⟨m, hm, he⟩ := bind_eq_ok_iff.1 h
    obtain ⟨-, rfl⟩ := checkRowCount_eq_ok_iff.1 hm
    cases he
    by_cases hz : m = 0
    · simp [hz]
    · simp [hz]

section

variable {spec : Spec} {schema : Schema} {codec : Codec} {fallbackLimit : UInt64} {entity : String}

theorem Spec.page_toQuery {q : Query}
    (h : spec.toQuery schema codec fallbackLimit entity = .ok q) :
    ∃ offset, q.page = some ⟨some (spec.limit.getD fallbackLimit), offset⟩ ∧
      offset.getD 0 = spec.offset.getD 0 ∧ (spec.offset.getD 0 = 0 → offset = none) := by
  obtain ⟨e, p, limit, offset, hl, ho, -, -, rfl⟩ := Spec.exists_plan_of_toQuery h
  obtain ⟨-, rfl⟩ := checkRowCount_eq_ok_iff.1 hl
  exact ⟨offset, page_addPage rfl _ _, eq_of_checkOffset ho⟩

theorem Compile.FieldFault.ne_pageOutOfRange {e : Entity} {n : Named} {err : CompileError}
    (h : FieldFault schema codec e n err) (part : PagePart) (m : UInt64) :
    err ≠ .pageOutOfRange part m := by
  cases h <;> simp

theorem Compile.Fault.ne_pageOutOfRange {e : Entity} {s : Scope} {err : CompileError}
    (h : Fault schema codec e s err) (part : PagePart) (m : UInt64) :
    err ≠ .pageOutOfRange part m := by
  induction h with
  | field hn hf => exact hf.ne_pageOutOfRange part m
  | related hn hh _ ih => exact ih

theorem Spec.toQuery_limit_iff {n : UInt64} :
    spec.toQuery schema codec fallbackLimit entity = .error (.pageOutOfRange .limit n) ↔
      n = spec.limit.getD fallbackLimit ∧ Nat.pow 2 63 - 1 < n.toNat := by
  constructor
  · intro h
    cases Spec.refusal_of_toQuery h with
    | limit hlt => exact ⟨rfl, hlt⟩
    | scope _ _ _ hf => exact absurd rfl (hf.ne_pageOutOfRange _ _)
  · rintro ⟨rfl, hlt⟩
    rw [Spec.toQuery, checkRowCount_of_lt _ hlt]
    rfl

theorem Spec.toQuery_offset_iff {n : UInt64} :
    spec.toQuery schema codec fallbackLimit entity = .error (.pageOutOfRange .offset n) ↔
      (spec.limit.getD fallbackLimit).toNat ≤ Nat.pow 2 63 - 1 ∧ spec.offset = some n ∧
        Nat.pow 2 63 - 1 < n.toNat := by
  constructor
  · intro h
    cases Spec.refusal_of_toQuery h with
    | offset hl ho hlt => exact ⟨hl, ho, hlt⟩
    | scope _ _ _ hf => exact absurd rfl (hf.ne_pageOutOfRange _ _)
  · rintro ⟨hl, ho, hlt⟩
    rw [Spec.toQuery, checkRowCount_of_le _ hl, ho, checkOffset, checkRowCount_of_lt _ hlt]
    rfl

/-- A spec is refused for its page just if its limit is out of range, or else its offset; nothing
else about it comes first. Where it is compiled, the statement ends, in every dialect, in one page
after an order by columns, from which its limit and its offset are read back; and where nothing is
skipped, only T-SQL says so. -/
theorem Spec.page_toSql (spec : Spec) (schema : Schema) (codec : Codec) (fallbackLimit : UInt64)
    (entity : String) :
    (∀ n, spec.toQuery schema codec fallbackLimit entity = .error (.pageOutOfRange .limit n) ↔
      n = spec.limit.getD fallbackLimit ∧ Nat.pow 2 63 - 1 < n.toNat) ∧
    (∀ n, spec.toQuery schema codec fallbackLimit entity = .error (.pageOutOfRange .offset n) ↔
      (spec.limit.getD fallbackLimit).toNat ≤ Nat.pow 2 63 - 1 ∧ spec.offset = some n ∧
        Nat.pow 2 63 - 1 < n.toNat) ∧
    ∀ q, spec.toQuery schema codec fallbackLimit entity = .ok q → ∀ d : Dialect, ∃ sql ls,
      q.toSql d = .ok sql ∧ d.lexemes sql.toList = some ls ∧
      d.EndsInPage ls (spec.limit.getD fallbackLimit).toNat (spec.offset.getD 0).toNat ∧
      (d ≠ .tsql → spec.offset.getD 0 = 0 → .word "OFFSET" ∉ ls) := by
  refine ⟨fun n => Spec.toQuery_limit_iff, fun n => Spec.toQuery_offset_iff, fun q hq d => ?_⟩
  obtain ⟨sql, hsql, hls⟩ := Spec.lexemes_toSql hq d
  obtain ⟨offset, hp, ho, hzero⟩ := Spec.page_toQuery hq
  have hlegible := Spec.legible_toQuery hq
  refine ⟨sql, _, hsql, hls, ?_, fun hd hz => ?_⟩
  · rw [← ho]
    exact Query.endsInPage hlegible hp
  · obtain rfl := hzero hz
    exact Query.offset_notMem_lexemes hlegible hp hd

end

/-- The same, from the first row on. -/
def Staff.firstPage : Spec := { spec with offset := some 0 }

def Staff.firstPageQuery : Query := { query with page := some { limit := some 10 } }

theorem Staff.page_query :
    spec.toQuery schema .plain 10 "Person" = .ok query ∧
    firstPage.toQuery schema .plain 10 "Person" = .ok firstPageQuery ∧
    spec.toQuery schema .plain 9223372036854775808 "Person" =
      .error (.pageOutOfRange .limit 9223372036854775808) ∧
    ∀ d : Dialect,
      (∃ sql ls, query.toSql d = .ok sql ∧ d.lexemes sql.toList = some ls ∧
        d.EndsInPage ls 10 20) ∧
      ∃ sql ls, firstPageQuery.toSql d = .ok sql ∧ d.lexemes sql.toList = some ls ∧
        d.EndsInPage ls 10 0 ∧ (d ≠ .tsql → .word "OFFSET" ∉ ls) := by
  have hfirst : firstPage.toQuery schema .plain 10 "Person" = .ok firstPageQuery := by rfl
  obtain ⟨-, -, hpage⟩ := Spec.page_toSql spec schema .plain 10 "Person"
  obtain ⟨-, -, hfirstPage⟩ := Spec.page_toSql firstPage schema .plain 10 "Person"
  obtain ⟨hlimit, -⟩ := Spec.page_toSql spec schema .plain 9223372036854775808 "Person"
  refine ⟨toQuery_spec, hfirst, (hlimit _).2 ⟨rfl, by decide +kernel⟩, fun d => ⟨?_, ?_⟩⟩
  · obtain ⟨sql, ls, hsql, hls, hends, -⟩ := hpage query toQuery_spec d
    exact ⟨sql, ls, hsql, hls, hends⟩
  · obtain ⟨sql, ls, hsql, hls, hends, hoffset⟩ := hfirstPage firstPageQuery hfirst d
    exact ⟨sql, ls, hsql, hls, hends, fun hd => hoffset hd rfl⟩

end EntityQuery
