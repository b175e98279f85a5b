import EntityQuery.Proofs.Compile.Shape
import EntityQuery.Proofs.Semantics.Reading

/-!
The predicate of a clause is true of just those rows whose cell meets the clause.
-/

namespace EntityQuery

namespace Compile

open EntityQuery.Reading
open EntityQuery.Sql (Comparison Env Expr Interpretation Literal Row anyOf_eq_true_iff)

variable {D : Type} (I : Interpretation D) (r : Row D)

theorem holds_never (env : Env D) : Expr.never.holds I env = false := by
  rw [Bool.eq_false_iff, ne_eq, Expr.holds_iff]
  exact I.one_ne_zero

theorem holds_membership (c : String) (ls : List Literal) :
    (membership (.column none c) ls).holds I (fun _ => r) =
      ls.any fun l => I.compare .eq (r c) (I.literal l) == some true := by
  rw [Bool.eq_iff_iff, Expr.holds_iff]
  simp only [membership, Expr.truth, anyOf_eq_true_iff, List.map_map, List.mem_map,
    Function.comp_apply, Expr.cell, List.any_eq_true, beq_iff_eq]

section

variable {I r} {codec : Codec} {site : Site} {c : String} {e : Expr}

theorem holds_of_lowerAll {vs : List Value} {ls : List Literal}
    (h : lowerAll codec.guarded vs = .ok ls) :
    (membership (.column none c) ls).holds I (fun _ => r) = isAmong I codec (r c) vs := by
  rw [holds_membership, isAmong, (lowerAll_guarded_ok.1 h).1]

theorem holds_of_lower {v : Value} {l : Literal} (h : lower codec.guarded v = .ok l)
    (op : Comparison) :
    (Expr.compare op (.column none c) (.literal l)).holds I (fun _ => r) =
      compares I codec op (r c) v := by
  rw [compares, (lower_guarded_ok.1 h).1]
  rfl

theorem holds_of_lower_single {v : Value} {l : Literal} (h : lower codec.guarded v = .ok l) :
    (membership (.column none c) [l]).holds I (fun _ => r) = compares I codec .eq (r c) v := by
  rw [holds_membership, compares, (lower_guarded_ok.1 h).1, List.any_cons, List.any_nil,
    Bool.or_false]

theorem holds_isNull (negated : Bool) :
    (Expr.isNull (.column none c) negated).holds I (fun _ => r) = ((r c).isNone != negated) := by
  simp [Expr.holds, Expr.truth, Expr.cell]

/-! Plain columns -/

theorem holds_of_compareNull {op : Operator}
    (h : compareNull site (.column none c) op = .ok e) :
    e.holds I (fun _ => r) = operatorHolds I codec (r c) op .null := by
  cases op <;> cases h <;> cases hc : r c <;> simp [operatorHolds, holds_isNull, hc]

/-- Membership alone makes no comparison. -/
theorem eq_inList_of_comparison? {op : Operator} (h : comparison? op = none) : op = .inList := by
  cases op <;> cases h
  rfl

theorem operatorHolds_inList (cell : Option D) {v : Value} (hn : v ≠ .null)
    (hl : ∀ vs, v ≠ .list vs) :
    operatorHolds I codec cell .inList v = compares I codec .eq cell v := by
  cases v with
  | null => exact absurd rfl hn
  | list vs => exact absurd rfl (hl vs)
  | _ => rfl

theorem operatorHolds_comparison (cell : Option D) {op : Operator} {v : Value} {c : Comparison}
    (hc : comparison? op = some c) (hn : v ≠ .null) (hl : ∀ vs, v ≠ .list vs) :
    operatorHolds I codec cell op v = compares I codec c cell v := by
  cases v with
  | null => exact absurd rfl hn
  | list vs => exact absurd rfl (hl vs)
  | _ => cases op <;> cases hc <;> rfl

theorem holds_of_compareValue {op : Operator} {v : Value}
    (h : compareValue codec.guarded site (.column none c) op v = .ok e) :
    e.holds I (fun _ => r) = operatorHolds I codec (r c) op v := by
  unfold compareValue at h
  split at h
  · exact holds_of_compareNull h
  · rename_i vs hc
    obtain ⟨ls, hl, he⟩ := bind_eq_ok_iff.1 h
    cases he
    rw [eq_inList_of_comparison? hc, holds_of_lowerAll hl]
    rfl
  · rename_i hn hv hc
    obtain ⟨l, hl, he⟩ := bind_eq_ok_iff.1 h
    cases he
    rw [eq_inList_of_comparison? hc, holds_of_lower_single hl, operatorHolds_inList _ hn hv]
  · cases h
  · rename_i hn hv hc
    obtain ⟨l, hl, he⟩ := bind_eq_ok_iff.1 h
    cases he
    rw [holds_of_lower hl, operatorHolds_comparison _ hc hn hv]

/-- Whether the predicate, if there is one, is true of a row. -/
def met (I : Interpretation D) (r : Row D) (p : Option Expr) : Bool :=
  p.all (·.holds I fun _ => r)

/-- A predicate that is asked for is true if the one it is made of is. -/
theorem met_of_some {x : Except CompileError Expr} {p : Option Expr} {b : Bool}
    (hx : ∀ e, x = .ok e → e.holds I (fun _ => r) = b)
    (h : (do return some (← x)) = Except.ok p) : met I r p = b := by
  obtain ⟨e, he, hp⟩ := bind_eq_ok_iff.1 h
  cases hp
  exact hx e he

theorem plainHolds_normalized (cell : Option D) (clause : Clause) :
    plainHolds I codec cell clause.normalized = plainHolds I codec cell clause := by
  cases clause with
  | value v => cases v <;> rfl
  | _ => rfl

theorem met_of_plainPredicate {clause : Clause} {p : Option Expr}
    (h : plainPredicate codec.guarded site (.column none c) clause = .ok p) :
    met I r p = plainHolds I codec (r c) clause := by
  rw [← plainHolds_normalized]
  unfold plainPredicate at h
  split at h
  · rename_i hc
    cases h
    rw [hc]
    rfl
  · rename_i hc
    cases h
    rw [hc]
    exact (holds_isNull false).trans (by simp [plainHolds])
  · rename_i hc
    cases h
    rw [hc]
    exact (holds_never I _).trans (by simp [plainHolds])
  · rename_i vs hne hc
    obtain ⟨ls, hl, he⟩ := bind_eq_ok_iff.1 h
    cases he
    rw [hc]
    refine (holds_of_lowerAll hl).trans ?_
    cases vs with
    | nil => exact absurd rfl hne
    | cons v vs => simp [plainHolds]
  · rename_i v hc
    obtain ⟨l, hl, he⟩ := bind_eq_ok_iff.1 h
    cases he
    refine (holds_of_lower hl .eq).trans ?_
    cases clause with
    | value w => cases w <;> cases hc <;> rfl
    | _ => cases hc
  · rename_i op v hc
    rw [hc]
    exact met_of_some (fun _ => holds_of_compareValue) h
  · cases h
  · cases h
  · cases h

/-! Foreign keys -/

theorem holds_of_matchAnyKey {vs : List Value}
    (h : matchAnyKey codec.guarded (.column none c) vs = .ok e) :
    e.holds I (fun _ => r) = keyIsAmong I codec (r c) vs := by
  unfold matchAnyKey at h
  split at h
  · rename_i hv
    cases h
    simp [holds_never, keyIsAmong, Value.filter_isStored, hv]
  · rename_i hv
    obtain ⟨ls, hl, he⟩ := bind_eq_ok_iff.1 h
    cases he
    have hne : (vs.filter (!·.isUnsaved)).isEmpty = false := List.isEmpty_eq_false_iff.2 hv
    rw [holds_of_lowerAll hl, keyIsAmong, Value.filter_isStored, hne]
    rfl

theorem holds_of_matchKey {v : Value} (h : matchKey codec.guarded (.column none c) v = .ok e) :
    e.holds I (fun _ => r) = keyIs I codec (r c) v := by
  unfold matchKey at h
  split at h
  · cases h
    simp [holds_isNull, keyIs]
  · exact holds_of_matchAnyKey h
  · rename_i hn hv
    have hk : keyIs I codec (r c) v = (!v.isUnsaved && compares I codec .eq (r c) v) := by
      rw [← Value.isStored_eq]
      unfold keyIs
      split <;> simp_all
    split at h
    · rename_i hu
      cases h
      simp [holds_never, hk, hu]
    · rename_i hu
      obtain ⟨l, hl, he⟩ := bind_eq_ok_iff.1 h
      cases he
      simp [holds_of_lower hl, hk, hu]

theorem holds_of_excludeKey {v : Value}
    (h : excludeKey codec.guarded site (.column none c) v = .ok e) :
    e.holds I (fun _ => r) = keyIsNot I codec (r c) v := by
  unfold excludeKey at h
  split at h
  · rename_i hn
    cases h
    cases v <;> cases hn
    simp [holds_isNull, keyIsNot]
  · rename_i hn
    split at h
    · cases h
    · rename_i hv
      obtain ⟨l, hl, he⟩ := bind_eq_ok_iff.1 h
      cases he
      rw [holds_of_lower hl]
      unfold keyIsNot
      split <;> simp_all [Value.isNull, Value.isList, Value.isStored_eq]

theorem met_of_keyPredicate {clause : Clause} {p : Option Expr}
    (h : keyPredicate codec.guarded site (.column none c) clause = .ok p) :
    met I r p = keyHolds I codec (r c) clause := by
  unfold keyPredicate at h
  split at h
  · cases h
    rfl
  · cases h
    rfl
  · cases h
    exact (holds_isNull false).trans (by simp [keyHolds])
  · exact met_of_some (fun _ => holds_of_matchKey) h
  · exact met_of_some (fun _ => holds_of_matchKey) h
  · exact met_of_some (fun _ => holds_of_matchKey) h
  · exact met_of_some (fun _ => holds_of_matchKey) h
  · exact met_of_some (fun _ => holds_of_matchAnyKey) h
  · exact met_of_some (fun _ => holds_of_excludeKey) h
  · cases h
  · cases h

end

end Compile

end EntityQuery
