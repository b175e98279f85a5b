import EntityQuery.Proofs.Acceptance.Demands

/-!
What the codec is handed of a clause. A scalar is handed over if it is neither null nor, where a key
is meant, an unsaved reference; a list is handed over as it is, where keys are meant without its
unsaved references. So the plain codec fails over a value that stands in the clause: a number that
is not finite, a list within a list, or, on a plain column only, an unsaved reference.
-/

namespace EntityQuery

open EntityQuery.Compile
open EntityQuery.Decimal (Binary64)
open EntityQuery.Sql (Literal)

/-! Operands of clauses -/

/-- The values of a list, or the value itself. -/
def Value.items : Value → List Value
  | .list vs => vs
  | v => [v]

theorem Value.items_of_not_isList {v : Value} (h : v.isList = false) : v.items = [v] := by
  cases v with
  | list vs => cases h
  | _ => rfl

namespace Clause

/-- What a clause compares its field with. -/
def operand? : Clause → Option Value
  | .value v | .id v | .compare _ v => some v
  | .list vs => some (.list vs)
  | _ => none

/-- The values that a clause compares its field with. -/
def values (c : Clause) : List Value := c.operand?.elim [] Value.items

variable {c : Clause} {v : Value} {vs : List Value}

theorem mem_values_of_scalar (h : c.operand? = some v) (hl : v.isList = false) :
    v ∈ c.values := by
  rw [values, h, Option.elim_some, Value.items_of_not_isList hl]
  exact List.mem_singleton_self v

theorem mem_values_of_list (h : c.operand? = some (.list vs)) (hv : v ∈ vs) : v ∈ c.values := by
  rw [values, h]
  exact hv

theorem exists_operand?_of_mem_values (h : v ∈ c.values) :
    ∃ w, c.operand? = some w ∧ v ∈ w.items := by
  unfold values at h
  cases ho : c.operand? with
  | none =>
    rw [ho] at h
    cases h
  | some w =>
    rw [ho] at h
    exact ⟨w, rfl, h⟩

/-- A list among the values stands in a list. -/
theorem exists_operand?_of_list_mem (h : .list vs ∈ c.values) :
    ∃ ws, c.operand? = some (.list ws) ∧ .list vs ∈ ws := by
  obtain ⟨w, hw, hm⟩ := exists_operand?_of_mem_values h
  cases w with
  | list ws => exact ⟨ws, hw, hm⟩
  | _ => cases List.mem_singleton.1 hm

end Clause

/-- What is handed over of a clause: nothing, its scalar, or the values of its list, as far as they
are kept; of scalars, neither null nor those that are not kept. -/
inductive Operand.TakenFrom (c : Clause) (keep : Value → Bool) : Operand → Prop
  | nothing : TakenFrom c keep .nothing
  | scalar {v : Value} (h : c.operand? = some v) (hn : v.isNull = false) (hl : v.isList = false)
    (hk : keep v = true) : TakenFrom c keep (.scalar v)
  | list {vs : List Value} (h : c.operand? = some (.list vs)) :
    TakenFrom c keep (.list (vs.filter keep))

namespace Operand

variable {c : Clause} {keep : Value → Bool} {v : Value} {vs : List Value}

theorem takenFrom_ofBare (h : c.operand? = some (.list vs)) :
    TakenFrom c keep (ofBare (vs.filter keep)) := by
  cases hvs : vs.filter keep with
  | nil => exact .nothing
  | cons w ws =>
    have hlist : TakenFrom c keep (.list (vs.filter keep)) := .list h
    rwa [hvs] at hlist

theorem takenFrom_ofKey (h : c.operand? = some v) :
    TakenFrom c Value.isStored (ofKey v) := by
  cases v with
  | null => exact .nothing
  | list vs => exact takenFrom_ofBare h
  | entity r =>
    obtain ⟨name, - | id⟩ := r
    · exact .nothing
    · exact .scalar h rfl rfl rfl
  | _ => exact .scalar h rfl rfl rfl

end Operand

namespace Clause

theorem takenFrom_plainOperand (c : Clause) :
    Operand.TakenFrom c (fun _ => true) c.plainOperand := by
  have list {d : Clause} {vs : List Value} (h : d.operand? = some (.list vs)) :
      Operand.TakenFrom d (fun _ => true) (.list vs) := by
    have hlist : Operand.TakenFrom d (fun _ => true) (.list (vs.filter fun _ => true)) := .list h
    rwa [List.filter_eq_self.2 fun _ _ => rfl] at hlist
  have bare {d : Clause} {vs : List Value} (h : d.operand? = some (.list vs)) :
      Operand.TakenFrom d (fun _ => true) (.ofBare vs) := by
    cases vs with
    | nil => exact .nothing
    | cons v vs => exact list h
  cases c with
  | value v =>
    cases v with
    | null => exact .nothing
    | list vs => exact bare rfl
    | _ => exact .scalar rfl rfl rfl rfl
  | compare op v =>
    cases v with
    | null => exact .nothing
    | list vs => exact list rfl
    | _ => exact .scalar rfl rfl rfl rfl
  | list vs => exact bare rfl
  | _ => exact .nothing

theorem takenFrom_keyOperand (c : Clause) :
    Operand.TakenFrom c Value.isStored c.keyOperand := by
  cases c with
  | value v | id v | compare op v => exact Operand.takenFrom_ofKey rfl
  | list vs => exact Operand.takenFrom_ofBare rfl
  | _ => exact .nothing

end Clause

/-! The plain codec -/

/-- Why the plain codec does not lower a value that it is handed. -/
inductive Codec.PlainRefuses : Value → CodecError → Prop
  | nonFinite {x : Binary64} (h : x.isFinite = false) : PlainRefuses (.float x) (.nonFinite x)
  | unsaved (name : String) : PlainRefuses (.entity ⟨name, none⟩) (.unsavedReference name)
  | nested (vs : List Value) : PlainRefuses (.list vs) .nestedList

namespace Codec

variable {v : Value} {vs : List Value} {err : CodecError}

theorem plainRefuses_of_lowerPlain (hl : v.isList = false) (h : lowerPlain v = .error err) :
    PlainRefuses v err := by
  cases v with
  | float x =>
    rw [lowerPlain] at h
    obtain ⟨y, hy, hx, rfl⟩ := checkFinite_error h
    cases hy
    exact .nonFinite hx
  | entity r =>
    obtain ⟨name, - | id⟩ := r
    · cases h
      exact .unsaved name
    · cases h
  | list vs => cases hl
  | _ => cases h

theorem finite_of_lowerPlain {l : Literal} (h : lowerPlain v = .ok l) : l.Finite := by
  cases v with
  | float x =>
    rw [lowerPlain] at h
    obtain ⟨rfl, hx⟩ := checkFinite_eq_ok_iff.1 h
    exact hx
  | entity r =>
    obtain ⟨name, - | id⟩ := r <;> cases h
    trivial
  | list vs => cases h
  | _ =>
    cases h
    trivial

theorem plainRefuses_of_lowerElement (h : lowerElement lowerPlain v = .error err) :
    PlainRefuses v err := by
  unfold lowerElement at h
  split at h
  · cases h
    cases v with
    | list vs => exact .nested vs
    | _ => contradiction
  · rename_i hl
    exact plainRefuses_of_lowerPlain (by simpa using hl) h

theorem finite_of_lowerElement {l : Literal} (h : lowerElement lowerPlain v = .ok l) :
    l.Finite := by
  unfold lowerElement at h
  split at h
  · cases h
  · exact finite_of_lowerPlain h

end Codec

/-- The plain codec fails over a value of the clause that it is handed. -/
theorem Operand.TakenFrom.exists_plainRefuses {c : Clause} {keep : Value → Bool} {o : Operand}
    {err : CodecError} (ho : o.TakenFrom c keep) (h : o.Fails .plain err) :
    ∃ v ∈ c.values, keep v = true ∧ Codec.PlainRefuses v err := by
  cases ho with
  | nothing => cases h
  | scalar hc hn hl hk =>
    refine ⟨_, Clause.mem_values_of_scalar hc hl, hk, ?_⟩
    cases h with
    | lower h => exact Codec.plainRefuses_of_lowerPlain hl h
    | nonFinite h hx =>
      have hfinite := Codec.finite_of_lowerPlain h
      exact absurd hfinite (by simp [Sql.Literal.Finite, hx])
  | list hc =>
    cases h with
    | lowerAll h =>
      obtain ⟨v, hv, hf⟩ := exists_of_mapM_error h
      obtain ⟨hv, hk⟩ := List.mem_filter.1 hv
      exact ⟨v, Clause.mem_values_of_list hc hv, hk, Codec.plainRefuses_of_lowerElement hf⟩
    | nonFiniteIn h hm hx =>
      obtain ⟨v, -, hf⟩ := exists_of_mapM_ok h _ hm
      have hfinite := Codec.finite_of_lowerElement hf
      exact absurd hfinite (by simp [Sql.Literal.Finite, hx])

/-! Demands -/

namespace Compile

/-- The demand is on a plain column. -/
def Demand.OnPlain (d : Demand) : Prop :=
  ∃ c ∈ d.entity.columns, c.field = d.named.field ∧ c.references = none

/-- Where the plain codec fails, it does so over a value of the clause; over an unsaved reference
only if the column is plain. -/
theorem Demand.exists_plainRefuses {schema : Schema} {d : Demand} {err : CodecError}
    (h : d.meet schema Codec.plain.guarded = .error (.codec err)) :
    ∃ v ∈ d.named.clause.values, Codec.PlainRefuses v err ∧ (v.isStored = false → d.OnPlain) := by
  cases fieldFault_of_planField h with
  | plainOperand hc hr _ ho =>
    obtain ⟨v, hv, -, hr'⟩ := d.named.clause.takenFrom_plainOperand.exists_plainRefuses ho
    exact ⟨v, hv, hr', fun _ => ⟨_, hc.1, hc.2, hr⟩⟩
  | keyOperand _ _ _ ho =>
    obtain ⟨v, hv, hk, hr⟩ := d.named.clause.takenFrom_keyOperand.exists_plainRefuses ho
    refine ⟨v, hv, hr, fun hu => ?_⟩
    simp [hu] at hk

end Compile

/-! Specs -/

/-- The demands of a spec on an entity. -/
def Spec.demands (spec : Spec) (schema : Schema) (entity : String) : List Demand :=
  (schema entity).elim [] fun e => Scope.demands schema e ⟨spec.filter, spec.order⟩

/-- The codec's error is that of the first demand that is not met. -/
theorem Spec.firstFailure_of_toQuery {spec : Spec} {schema : Schema} {codec : Codec}
    {fallbackLimit : UInt64} {entity : String} {err : CodecError}
    (h : spec.toQuery schema codec fallbackLimit entity = .error (.codec err)) :
    FirstFailure schema codec.guarded (spec.demands schema entity) (.codec err) := by
  have hout := spec.outcome_toQuery schema codec fallbackLimit entity
  rw [h] at hout
  cases hout with
  | limitRefused hl =>
    obtain ⟨-, he⟩ := checkRowCount_error hl
    cases he
  | offsetRefused _ ho =>
    obtain ⟨n, -, -, he⟩ := checkOffset_error ho
    cases he
  | refused _ _ he hp =>
    rw [Spec.demands, he]
    exact firstFailure_of_plan _ hp

end EntityQuery
