import EntityQuery.Proofs.Compile.Shape
import EntityQuery.Proofs.Redaction.Specs

/-!
Predicates without the content of their literals. Wherever a clause is compiled with some codec, the
redacted clause is compiled with one that gives null for everything, and its predicate is the
redacted one. So the content of a value decides nothing but the content of literals.
-/

namespace EntityQuery

open EntityQuery.Sql (Expr Literal)

namespace Sql.Expr

/-- A literal without its content. -/
def blankLiteral : Expr → Expr
  | .literal _ => .literal .null
  | e => e

/-- A predicate on a column with the literals on its right redacted. -/
def redact : Expr → Expr
  | .compare op (.column t c) e => .compare op (.column t c) e.blankLiteral
  | .inList (.column t c) vs => .inList (.column t c) (vs.map blankLiteral)
  | e => e

theorem qualify_redact (asName : String) (e : Expr) :
    e.redact.qualify asName = (e.qualify asName).redact := by
  cases e with
  | compare op l r =>
    cases l with
    | column t c => cases t <;> rfl
    | _ => rfl
  | inList l vs =>
    cases l with
    | column t c => cases t <;> rfl
    | _ => rfl
  | isNull e negated => rfl
  | column t c => cases t <;> rfl
  | _ => rfl

end Sql.Expr

/-- The codec that gives null for everything but lists in lists. -/
def Codec.blank : Codec := .elementwise fun _ => .ok .null

theorem Codec.isList_of_lowerElement {encode : Value → Except CodecError Literal} {v : Value}
    {l : Literal} (h : lowerElement encode v = .ok l) : v.isList = false := by
  unfold lowerElement at h
  split at h
  · cases h
  · rename_i hv
    exact Bool.eq_false_iff.2 hv

theorem Codec.lowerAll_blank {encode : Value → Except CodecError Literal} {vs : List Value}
    {ls : List Literal} (h : (elementwise encode).lowerAll vs = .ok ls) :
    blank.lowerAll (vs.map Value.redact) = .ok (ls.map fun _ => .null) := by
  simp only [elementwise, blank] at h ⊢
  induction vs generalizing ls with
  | nil =>
    cases h
    rfl
  | cons v vs ih =>
    rw [List.mapM_cons] at h
    obtain ⟨l, hl, hrest⟩ := bind_eq_ok_iff.1 h
    obtain ⟨ls', hls, he⟩ := bind_eq_ok_iff.1 hrest
    cases he
    have hv : lowerElement (fun _ => .ok .null) v.redact = .ok .null := by
      rw [lowerElement, Value.isList_redact, isList_of_lowerElement hl]
      rfl
    rw [List.map_cons, List.mapM_cons, hv, ih hls]
    rfl

theorem Clause.normalized_redact (c : Clause) : c.redact.normalized = c.normalized.redact := by
  cases c with
  | value v =>
    cases v with
    | entity r =>
      obtain ⟨name, - | id⟩ := r <;> simp [Clause.redact, Value.redact, normalized]
    | _ => simp [Clause.redact, Value.redact, normalized, Value.redactAll_eq_map]
  | _ => simp [Clause.redact, normalized]

namespace Compile

/-- Where one computation succeeds, the other one does, with the redacted result. -/
def Redacts {α : Type} (redact : α → α) (x y : Except CompileError α) : Prop :=
  ∀ a, x = .ok a → y = .ok (redact a)

section

variable {α : Type} {ρ : α → α} {encode : Value → Except CodecError Literal} {site : Site}
  {c : String}

theorem redacts_ok {a : α} (h : ρ a = a) : Redacts ρ (.ok a) (.ok a) := by
  intro b hb
  cases hb
  rw [h]

theorem redacts_error {err : CompileError} {y : Except CompileError α} :
    Redacts ρ (.error err) y := by
  intro a ha
  cases ha

theorem redacts_scalar {f : Literal → α} (hf : ∀ l, ρ (f l) = f .null) (v w : Value) :
    Redacts ρ (do return f (← lower (Codec.elementwise encode).guarded v))
      (do return f (← lower .blank w)) := by
  intro a ha
  obtain ⟨l, -, he⟩ := bind_eq_ok_iff.1 ha
  cases he
  rw [hf]
  rfl

theorem redacts_list {f : List Literal → α} (hf : ∀ ls, ρ (f ls) = f (ls.map fun _ => .null))
    (vs : List Value) :
    Redacts ρ (do return f (← lowerAll (Codec.elementwise encode).guarded vs))
      (do return f (← lowerAll .blank (vs.map Value.redact))) := by
  intro a ha
  obtain ⟨ls, hls, he⟩ := bind_eq_ok_iff.1 ha
  cases he
  rw [hf, lowerAll, Codec.lowerAll_blank (lowerAll_guarded_ok.1 hls).1]
  rfl

theorem Redacts.some {x y : Except CompileError α} (h : Redacts ρ x y) :
    Redacts (Option.map ρ) (do return some (← x)) (do return some (← y)) := by
  intro a ha
  obtain ⟨b, hb, he⟩ := bind_eq_ok_iff.1 ha
  cases he
  rw [h b hb]
  rfl

theorem redact_membership (ls : List Literal) :
    (membership (.column none c) ls).redact =
      membership (.column none c) (ls.map fun _ => .null) := by
  simp [membership, Expr.redact, Expr.blankLiteral, Function.comp_def]

theorem redacts_comparison (op : Sql.Comparison) (v w : Value) :
    Redacts Expr.redact
      (do return Expr.compare op (.column none c) (.literal
            (← lower (Codec.elementwise encode).guarded v)))
      (do return Expr.compare op (.column none c) (.literal (← lower .blank w))) :=
  redacts_scalar (f := fun l => Expr.compare op (.column none c) (.literal l)) (fun _ => rfl) v w

/-! Plain columns -/

theorem redacts_compareNull (op : Operator) :
    Redacts Expr.redact (compareNull site (.column none c) op)
      (compareNull site (.column none c) op) := by
  cases op with
  | eq => exact redacts_ok rfl
  | ne => exact redacts_ok rfl
  | _ => exact redacts_error

theorem redacts_compareList (op : Operator) (vs : List Value) :
    Redacts Expr.redact
      (compareValue (Codec.elementwise encode).guarded site (.column none c) op (.list vs))
      (compareValue .blank site (.column none c) op (.list (vs.map Value.redact))) := by
  cases hc : comparison? op with
  | none =>
    simp only [compareValue, hc]
    exact redacts_list redact_membership vs
  | some cmp =>
    simp only [compareValue, hc]
    exact redacts_error

theorem redacts_compareScalar (op : Operator) {v w : Value} (hv : v.isNull = false)
    (hvl : v.isList = false) (hw : w.isNull = false) (hwl : w.isList = false) :
    Redacts Expr.redact
      (compareValue (Codec.elementwise encode).guarded site (.column none c) op v)
      (compareValue .blank site (.column none c) op w) := by
  cases hc : comparison? op with
  | none =>
    rw [compareValue_member hc hv hvl, compareValue_member hc hw hwl]
    exact redacts_scalar (fun l => redact_membership [l]) v w
  | some cmp =>
    rw [compareValue_compare hc hv hvl, compareValue_compare hc hw hwl]
    exact redacts_comparison cmp v w

theorem redacts_compareValue (op : Operator) (v : Value) :
    Redacts Expr.redact
      (compareValue (Codec.elementwise encode).guarded site (.column none c) op v)
      (compareValue .blank site (.column none c) op v.redact) := by
  cases v with
  | null =>
    rw [Value.redact]
    exact redacts_compareNull op
  | list vs =>
    rw [Value.redact, Value.redactAll_eq_map]
    exact redacts_compareList op vs
  | entity r =>
    obtain ⟨name, - | id⟩ := r <;> exact redacts_compareScalar op rfl rfl rfl rfl
  | _ => exact redacts_compareScalar op rfl rfl rfl rfl

theorem redacts_plainPredicate (clause : Clause) :
    Redacts (Option.map Expr.redact)
      (plainPredicate (Codec.elementwise encode).guarded site (.column none c) clause)
      (plainPredicate .blank site (.column none c) clause.redact) := by
  unfold plainPredicate
  rw [Clause.normalized_redact]
  cases clause.normalized with
  | absent => exact redacts_ok rfl
  | null => exact redacts_ok rfl
  | value v =>
    exact redacts_scalar (f := fun l => some (Expr.compare .eq (.column none c) (.literal l)))
      (fun _ => rfl) v v.redact
  | list vs =>
    cases vs with
    | nil => exact redacts_ok rfl
    | cons v vs =>
      exact redacts_list (fun ls => congrArg some (redact_membership ls)) (v :: vs)
  | compare op v => exact (redacts_compareValue op v).some
  | id v => exact redacts_error
  | nested f => exact redacts_error
  | unrecognized name => exact redacts_error

/-! Foreign keys -/

theorem redacts_matchAnyKey (vs : List Value) :
    Redacts Expr.redact (matchAnyKey (Codec.elementwise encode).guarded (.column none c) vs)
      (matchAnyKey .blank (.column none c) (vs.map Value.redact)) := by
  have hkeys : (vs.map Value.redact).filter (!·.isUnsaved) =
      (vs.filter (!·.isUnsaved)).map Value.redact := by
    simp [List.filter_map, Function.comp_def, Value.isUnsaved_redact]
  unfold matchAnyKey
  rw [hkeys]
  cases vs.filter (!·.isUnsaved) with
  | nil => exact redacts_ok rfl
  | cons k ks => exact redacts_list redact_membership (k :: ks)

theorem redacts_matchKey (v : Value) :
    Redacts Expr.redact (matchKey (Codec.elementwise encode).guarded (.column none c) v)
      (matchKey .blank (.column none c) v.redact) := by
  cases v with
  | null => exact redacts_ok rfl
  | list vs =>
    rw [Value.redact, Value.redactAll_eq_map]
    exact redacts_matchAnyKey vs
  | entity r =>
    obtain ⟨name, - | id⟩ := r
    · exact redacts_ok rfl
    · exact redacts_comparison _ _ (.bool true)
  | _ => exact redacts_comparison _ _ (.bool true)

theorem redacts_excludeKey (v : Value) :
    Redacts Expr.redact (excludeKey (Codec.elementwise encode).guarded site (.column none c) v)
      (excludeKey .blank site (.column none c) v.redact) := by
  cases v with
  | null => exact redacts_ok rfl
  | list vs => exact redacts_error
  | entity r =>
    obtain ⟨name, - | id⟩ := r
    · exact redacts_error
    · exact redacts_comparison _ _ (.bool true)
  | _ => exact redacts_comparison _ _ (.bool true)

theorem redacts_keyPredicate (clause : Clause) :
    Redacts (Option.map Expr.redact)
      (keyPredicate (Codec.elementwise encode).guarded site (.column none c) clause)
      (keyPredicate .blank site (.column none c) clause.redact) := by
  cases clause with
  | absent => exact redacts_ok rfl
  | null => exact redacts_ok rfl
  | nested f => exact redacts_ok rfl
  | value v => exact (redacts_matchKey v).some
  | id v => exact (redacts_matchKey v).some
  | list vs => exact (redacts_matchAnyKey vs).some
  | compare op v =>
    cases op with
    | eq => exact (redacts_matchKey v).some
    | inList => exact (redacts_matchKey v).some
    | ne => exact (redacts_excludeKey v).some
    | _ => exact redacts_error
  | unrecognized name => exact redacts_error

end

end Compile

end EntityQuery
