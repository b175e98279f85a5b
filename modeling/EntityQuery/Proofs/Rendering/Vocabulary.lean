import EntityQuery.Proofs.Rendering.Rewriting

/-!
What statements are made of. The body of a statement is all of it but its page. Whatever the
expressions of a query are, no token of a page stands in the body, and no match without regard to
case where the dialect has none.
-/

namespace EntityQuery.Sql

/-- Whether a token can stand in the body of a statement. -/
def Token.inBody (d : Dialect) : Token → Bool
  | .limit | .offset | .fetch | .next | .rows | .only | .count _ => false
  | .ilike => d.supportsIlike
  | _ => true

/-- All tokens can stand in the body of a statement. -/
def InBody (d : Dialect) (ts : List Token) : Prop := ∀ t ∈ ts, t.inBody d = true

variable {d : Dialect}

namespace InBody

variable {ts us : List Token}

theorem of_all (h : ts.all (Token.inBody d) = true) : InBody d ts := List.all_eq_true.1 h

theorem append (ht : InBody d ts) (hu : InBody d us) : InBody d (ts ++ us) :=
  List.forall_mem_append.2 ⟨ht, hu⟩

theorem intercalate {separator : List Token} {parts : List (List Token)}
    (hs : InBody d separator) (h : ∀ p ∈ parts, InBody d p) :
    InBody d (List.intercalate separator parts) :=
  forall_mem_intercalate hs h

theorem clause {opening separator : List Token} {parts : List (List Token)}
    (ho : InBody d opening) (hs : InBody d separator) (h : ∀ p ∈ parts, InBody d p) :
    InBody d (Query.clause opening separator parts) := by
  unfold Query.clause
  split
  · exact of_all rfl
  · exact ho.append (intercalate hs h)

end InBody

/-! Expressions -/

namespace Expr

theorem inBody_qualifier (t : Option String) : InBody d (qualifier t) := by
  cases t <;> exact .of_all rfl

theorem inBody_callTokens (f : String) {args : List (List Token)} (h : ∀ p ∈ args, InBody d p) :
    InBody d (callTokens f args) := by
  have hopening : InBody d [.function f, .openParen] := .of_all rfl
  exact hopening.append (.append (.intercalate (.of_all rfl) h) (.of_all rfl))

theorem inBody_compareTokens (op : Comparison) {left right : List Token} (hl : InBody d left)
    (hr : InBody d right) : InBody d (compareTokens d op left right) := by
  have hlowered {ts : List Token} (h : InBody d ts) : InBody d (lowered ts) :=
    inBody_callTokens _ (List.forall_mem_singleton.2 h)
  unfold compareTokens
  split
  · exact .append (.append (hlowered hl) (.of_all rfl)) (hlowered hr)
  · rename_i hop
    have htoken : op.token.inBody d = true := by
      cases op with
      | ilike =>
        rw [eq_self_iff_true, true_and, Bool.not_eq_false] at hop
        exact hop
      | _ => rfl
    have hop : InBody d [.space, op.token, .space] :=
      List.forall_mem_cons.2 ⟨rfl, List.forall_mem_cons.2 ⟨htoken, InBody.of_all rfl⟩⟩
    exact (hl.append hop).append hr

theorem inBody_inListTokens {e : List Token} {values : List (List Token)} (he : InBody d e)
    (h : ∀ p ∈ values, InBody d p) : InBody d (inListTokens e values) := by
  unfold inListTokens
  split
  · exact .of_all rfl
  · exact .append (.append (.append he (.of_all rfl)) (.intercalate (.of_all rfl) h)) (.of_all rfl)

mutual

theorem inBody_tokens : ∀ e : Expr, InBody d (e.tokens d)
  | .column t c => .append (inBody_qualifier t) (.of_all rfl)
  | .literal l => by cases l <;> exact .of_all rfl
  | .star t => .append (inBody_qualifier t) (.of_all rfl)
  | .compare op l r => inBody_compareTokens op (inBody_tokens l) (inBody_tokens r)
  | .call f args => inBody_callTokens f (inBody_tokensOfList args)
  | .inList e vs => inBody_inListTokens (inBody_tokens e) (inBody_tokensOfList vs)
  | .isNull e negated => .append (inBody_tokens e) (by cases negated <;> exact .of_all rfl)

theorem inBody_tokensOfList : ∀ es : List Expr, ∀ ts ∈ tokensOfList d es, InBody d ts
  | [] => by simp [tokensOfList]
  | e :: es => List.forall_mem_cons.2 ⟨inBody_tokens e, inBody_tokensOfList es⟩

end

end Expr

/-! Queries -/

namespace Query

/-- A statement without its page. -/
def bodyTokens (d : Dialect) (q : Query) : List Token :=
  q.selectTokens d ++ q.sourceTokens ++ q.joinTokens d ++ q.whereTokens d ++ q.orderTokens d

theorem tokens_eq_body (d : Dialect) (q : Query) : q.tokens d = q.bodyTokens d ++ q.pageTokens d :=
  rfl

theorem inBody_table (t : Table) : InBody d t.tokens := by
  obtain ⟨name, schema, - | asName⟩ := t <;> exact .of_all rfl

theorem inBody_bodyTokens (q : Query) : InBody d (q.bodyTokens d) := by
  have hparts {es : List Expr} : ∀ ts ∈ es.map (Expr.tokens d), InBody d ts :=
    List.forall_mem_map.2 fun e _ => Expr.inBody_tokens e
  have hselect : InBody d (q.selectTokens d) := by
    unfold selectTokens
    split
    · exact .of_all rfl
    · have hkeyword : InBody d [.select] := .of_all rfl
      exact hkeyword.append (.clause (.of_all rfl) (.of_all rfl) hparts)
  have hsource : InBody d q.sourceTokens := by
    unfold sourceTokens
    cases q.source with
    | none => exact .of_all rfl
    | some t => exact .append (.of_all rfl) (inBody_table t)
  have hjoins : InBody d (q.joinTokens d) := by
    refine List.forall_mem_flatMap.2 fun j _ => ?_
    have hopening : InBody d [.newline, .inner, .space, .join, .space] := .of_all rfl
    exact ((hopening.append (inBody_table j.table)).append (.of_all rfl)).append
      (Expr.inBody_tokens j.condition)
  have hwhere : InBody d (q.whereTokens d) := .clause (.of_all rfl) (.of_all rfl) hparts
  have horder : InBody d (q.orderTokens d) := by
    unfold orderTokens
    split
    · exact .of_all rfl
    · refine .clause (.of_all rfl) (.of_all rfl) (List.forall_mem_map.2 fun t _ => ?_)
      exact (Expr.inBody_tokens t.expr).append (by cases t.direction <;> exact .of_all rfl)
  exact (((hselect.append hsource).append hjoins).append hwhere).append horder

end Query

end EntityQuery.Sql
