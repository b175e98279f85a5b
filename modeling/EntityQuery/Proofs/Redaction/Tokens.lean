import EntityQuery.Proofs.Redaction.Plans
import EntityQuery.Proofs.Staff
import EntityQuery.Sql.Layout
import Mathlib.Data.List.Forall2

/-!
Statements without the content of their literals. The tokens of a redacted query are those of the
query but for literals, in every dialect. So two specs of one shape are compiled to statements of
the same structure: token by token they are equal or both literals.
-/

namespace EntityQuery

namespace Sql

/-! Tokens -/

def Token.isLiteral : Token → Bool
  | .int _ | .float _ | .string _ | .bool _ | .null => true
  | _ => false

/-- All literals look the same. -/
def Token.redact (t : Token) : Token := if t.isLiteral then .null else t

/-- The tokens are equal, or both are literals. -/
def Token.Alike (t u : Token) : Prop := t = u ∨ t.isLiteral = true ∧ u.isLiteral = true

theorem Token.alike_of_redact {t u : Token} (h : t.redact = u.redact) : t.Alike u := by
  unfold redact at h
  split at h <;> split at h
  · exact .inr ⟨‹_›, ‹_›⟩
  · rename_i ht hu
    subst h
    exact absurd rfl hu
  · rename_i ht hu
    subst h
    exact absurd rfl ht
  · exact .inl h

theorem alike_of_map_redact {ts us : List Token} (h : ts.map Token.redact = us.map Token.redact) :
    List.Forall₂ Token.Alike ts us := by
  have hmap : List.Forall₂ (· = ·) (ts.map Token.redact) (us.map Token.redact) := by
    rw [h]
    exact List.forall₂_refl _
  rw [List.forall₂_map_left_iff, List.forall₂_map_right_iff] at hmap
  exact hmap.imp fun _ _ => Token.alike_of_redact

theorem map_intercalate {α β : Type} (f : α → β) (separator : List α) (parts : List (List α)) :
    (List.intercalate separator parts).map f =
      List.intercalate (separator.map f) (parts.map (List.map f)) := by
  induction parts with
  | nil => rfl
  | cons p ps ih =>
    cases ps with
    | nil => simp
    | cons q qs =>
      rw [List.map_cons] at ih
      rw [List.map_cons, List.map_cons, List.intercalate_cons_cons, List.intercalate_cons_cons,
        List.map_append, List.map_append, ih]

/-! Expressions -/

section

variable (d : Dialect)

theorem map_redact_literal (l : Literal) : [l.token].map Token.redact = [Token.null] := by
  cases l <;> rfl

theorem map_redact_blankLiteral (e : Expr) :
    (e.blankLiteral.tokens d).map Token.redact = (e.tokens d).map Token.redact := by
  cases e with
  | literal l =>
    rw [Expr.blankLiteral, Expr.tokens, Expr.tokens, map_redact_literal, map_redact_literal]
  | _ => rfl

theorem map_redact_compareTokens (op : Comparison) {left right right' : List Token}
    (h : right.map Token.redact = right'.map Token.redact) :
    (Expr.compareTokens d op left right).map Token.redact =
      (Expr.compareTokens d op left right').map Token.redact := by
  unfold Expr.compareTokens
  split
  · simp [Expr.lowered, Expr.callTokens, h]
  · simp [h]

theorem map_redact_inListTokens {e : List Token} {values values' : List (List Token)}
    (h : values.map (List.map Token.redact) = values'.map (List.map Token.redact)) :
    (Expr.inListTokens e values).map Token.redact =
      (Expr.inListTokens e values').map Token.redact := by
  have hempty : values.isEmpty = values'.isEmpty := by
    rw [← List.isEmpty_map (f := List.map Token.redact), h, List.isEmpty_map]
  unfold Expr.inListTokens
  rw [hempty]
  split
  · rfl
  · simp only [List.map_append, map_intercalate, h]

/-- Redacting an expression changes nothing but literals in its tokens. -/
theorem map_redact_tokens (e : Expr) :
    (e.redact.tokens d).map Token.redact = (e.tokens d).map Token.redact := by
  cases e with
  | compare op l r =>
    cases l with
    | column t c => exact map_redact_compareTokens d op (map_redact_blankLiteral d r)
    | _ => rfl
  | inList l vs =>
    cases l with
    | column t c =>
      refine map_redact_inListTokens ?_
      rw [Expr.tokensOfList_eq_map, Expr.tokensOfList_eq_map, List.map_map, List.map_map,
        List.map_map]
      exact List.map_congr_left fun v _ => map_redact_blankLiteral d v
    | _ => rfl
  | _ => rfl

/-! Queries -/

theorem map_redact_clause {opening separator : List Token} {parts parts' : List (List Token)}
    (h : parts.map (List.map Token.redact) = parts'.map (List.map Token.redact)) :
    (Query.clause opening separator parts).map Token.redact =
      (Query.clause opening separator parts').map Token.redact := by
  have hempty : parts.isEmpty = parts'.isEmpty := by
    rw [← List.isEmpty_map (f := List.map Token.redact), h, List.isEmpty_map]
  unfold Query.clause
  rw [hempty]
  split
  · rfl
  · rw [List.map_append, List.map_append, map_intercalate, map_intercalate, h]

theorem map_redact_query (q : Query) :
    (q.redact.tokens d).map Token.redact = (q.tokens d).map Token.redact := by
  have hwhere : (q.redact.whereTokens d).map Token.redact =
      (q.whereTokens d).map Token.redact := by
    refine map_redact_clause ?_
    rw [Query.redact, List.map_map, List.map_map, List.map_map]
    exact List.map_congr_left fun e _ => map_redact_tokens d e
  simp only [Query.tokens, List.map_append, hwhere]
  rfl

end

end Sql

open EntityQuery.Sql (Dialect Query Token)

/-- Values have no influence on the structure of a query. Two specs of one shape, compiled with any
two codecs that lower lists element by element, give queries that are equal up to the literals that
columns are compared with, and statements that are equal up to literals in every dialect. -/
theorem Spec.alike_toQuery {spec spec' : Spec} {schema : Schema}
    {encode encode' : Value → Except CodecError Sql.Literal} {fallbackLimit : UInt64}
    {entity : String} {q q' : Query} (hs : spec.SameShape spec')
    (h : spec.toQuery schema (.elementwise encode) fallbackLimit entity = .ok q)
    (h' : spec'.toQuery schema (.elementwise encode') fallbackLimit entity = .ok q') :
    q.redact = q'.redact ∧ ∀ d : Dialect, List.Forall₂ Token.Alike (q.tokens d) (q'.tokens d) := by
  have hq := Spec.redact_toQuery_congr hs h h'
  refine ⟨hq, fun d => Sql.alike_of_map_redact ?_⟩
  rw [← Sql.map_redact_query d q, hq, Sql.map_redact_query d q']

/-- The same spec, with numbers for names and texts for ages. -/
def Staff.numberSpec : Spec where
  filter := ⟨[("id", .absent), ("name", .compare .like (.int 7)),
    ("age", .compare .gt (.string "thirty")),
    ("manager", .nested ⟨[("name", .value (.int 8)), ("age", .list [.string "", .int 9]),
      ("manager", .nested ⟨[]⟩)]⟩),
    ("mentor", .nested ⟨[("name", .compare .inList (.list [.int 10, .bool false])),
      ("age", .compare .ne .null)]⟩)]⟩
  order := spec.order
  offset := spec.offset

/-- Its query, with a codec that turns everything into a truth value. -/
def Staff.numberQuery : Query :=
  { query with predicates := [
    .inList (.column (some "p1") "full_name") [.literal (.bool true), .literal (.bool true)],
    .isNull (.column (some "p1") "age") true,
    .compare .like (.column (some "p0") "full_name") (.literal (.bool true)),
    .compare .gt (.column (some "p0") "age") (.literal (.bool true)),
    .compare .eq (.column (some "p2") "full_name") (.literal (.bool true)),
    .inList (.column (some "p2") "age") [.literal (.bool true), .literal (.bool true)]] }

theorem Staff.alike_query :
    spec.SameShape numberSpec ∧
    spec.toQuery schema (.elementwise Codec.lowerPlain) 10 "Person" = .ok query ∧
    numberSpec.toQuery schema (.elementwise fun _ => .ok (.bool true)) 10 "Person" =
      .ok numberQuery ∧
    query.redact = numberQuery.redact ∧
    ∀ d : Dialect, List.Forall₂ Token.Alike (query.tokens d) (numberQuery.tokens d) :=
  have hs : spec.SameShape numberSpec := by rfl
  have hn : numberSpec.toQuery schema (.elementwise fun _ => .ok (.bool true)) 10 "Person" =
      .ok numberQuery := by rfl
  ⟨hs, toQuery_spec, hn, Spec.alike_toQuery hs toQuery_spec hn⟩

end EntityQuery
