import EntityQuery.Proofs.Acceptance.Nulls
import EntityQuery.Proofs.Acceptance.Operands
import EntityQuery.Proofs.Compile.Branches
import EntityQuery.Proofs.Finite.Compilation

/-!
What compiling a spec asks the codec about. Two codecs that agree on the operands of a spec's
clauses compile it alike. A codec that lowers lists element by element is never asked about a list
itself, about null outside a list, or about an unsaved reference where a key is meant; so the plain
codec cannot fail there, and gives no null to compare with.
-/

namespace EntityQuery

open EntityQuery.Sql (Comparison Expr Literal Query)

/-! Codecs that agree -/

/-- The codecs give the same for an operand. -/
def Codec.AgreeOn (codec codec' : Codec) : Operand → Prop
  | .nothing => True
  | .scalar v => codec.lower v = codec'.lower v
  | .list vs => codec.lowerAll vs = codec'.lowerAll vs

section

variable {codec codec' : Codec}

theorem Codec.AgreeOn.guarded {o : Operand} (h : codec.AgreeOn codec' o) :
    codec.guarded.AgreeOn codec'.guarded o := by
  cases o with
  | nothing => trivial
  | scalar v => exact congrArg (· >>= checkFinite) h
  | list vs => exact congrArg (· >>= List.mapM checkFinite) h

namespace Compile

variable {v : Value} {vs : List Value}

theorem lower_congr (h : codec.AgreeOn codec' (.scalar v)) : lower codec v = lower codec' v :=
  congrArg (·.mapError CompileError.codec) h

theorem lowerAll_congr (h : codec.AgreeOn codec' (.list vs)) :
    lowerAll codec vs = lowerAll codec' vs := congrArg (·.mapError CompileError.codec) h

variable {site : Site} {column : Expr}

theorem compareValue_congr (op : Operator) (h : codec.AgreeOn codec' (.ofValue v)) :
    compareValue codec site column op v = compareValue codec' site column op v := by
  cases v with
  | null => rfl
  | list vs =>
    cases hc : comparison? op with
    | none => simp only [compareValue, hc, lowerAll_congr h]
    | some c => simp only [compareValue, hc]
  | _ => cases hc : comparison? op <;> simp only [compareValue, hc, lower_congr h]

theorem plainPredicate_congr {clause : Clause} (h : codec.AgreeOn codec' clause.plainOperand) :
    plainPredicate codec site column clause = plainPredicate codec' site column clause := by
  have list {vs : List Value} (h : codec.AgreeOn codec' (.ofBare vs)) :
      plainPredicate codec site column (.list vs) =
        plainPredicate codec' site column (.list vs) := by
    cases vs with
    | nil => rfl
    | cons v vs => simp only [plainPredicate, Clause.normalized, lowerAll_congr h]
  cases clause with
  | list vs => exact list h
  | value v =>
    cases v with
    | null => rfl
    | list vs => exact list h
    | _ => simp only [plainPredicate, Clause.normalized, lower_congr h]
  | compare op v => simp only [plainPredicate, Clause.normalized, compareValue_congr op h]
  | _ => rfl

theorem matchAnyKey_congr (h : codec.AgreeOn codec' (.ofKeys vs)) :
    matchAnyKey codec column vs = matchAnyKey codec' column vs := by
  unfold matchAnyKey
  rw [Operand.ofKeys, Value.filter_isStored] at h
  cases hk : vs.filter (!·.isUnsaved) with
  | nil => rfl
  | cons k ks =>
    rw [hk] at h
    simp only [lowerAll_congr h]

theorem matchKey_congr (h : codec.AgreeOn codec' (.ofKey v)) :
    matchKey codec column v = matchKey codec' column v := by
  cases v with
  | null => rfl
  | list vs => exact matchAnyKey_congr h
  | entity r =>
    obtain ⟨name, - | id⟩ := r
    · rfl
    · simp only [matchKey, lower_congr h]
  | _ => simp only [matchKey, lower_congr h]

theorem excludeKey_congr (h : codec.AgreeOn codec' (.ofKey v)) :
    excludeKey codec site column v = excludeKey codec' site column v := by
  cases v with
  | null => rfl
  | list vs => rfl
  | entity r =>
    obtain ⟨name, - | id⟩ := r
    · rfl
    · simp only [excludeKey, lower_congr h]
  | _ => simp only [excludeKey, lower_congr h]

theorem keyPredicate_congr {clause : Clause} (h : codec.AgreeOn codec' clause.keyOperand) :
    keyPredicate codec site column clause = keyPredicate codec' site column clause := by
  cases clause with
  | value v | id v => simp only [keyPredicate, matchKey_congr h]
  | list vs => simp only [keyPredicate, matchAnyKey_congr h]
  | compare op v =>
    cases op with
    | eq | inList => simp only [keyPredicate, matchKey_congr h]
    | ne => simp only [keyPredicate, excludeKey_congr h]
    | _ => rfl
  | _ => rfl

/-- Codecs that lower lists element by element agree if they do on the values that are kept: not on
lists, and on null only if it stands in a list. -/
theorem agreeOn_elementwise {encode encode' : Value → Except CodecError Literal} {c : Clause}
    {keep : Value → Bool} {o : Operand} (ho : o.TakenFrom c keep)
    (h : ∀ v ∈ c.values, keep v = true → v.isList = false →
      (v = .null → ∃ vs, c.operand? = some (.list vs) ∧ .null ∈ vs) → encode v = encode' v) :
    (Codec.elementwise encode).AgreeOn (Codec.elementwise encode') o := by
  cases ho with
  | nothing => trivial
  | scalar hc hn hl hk =>
    refine h _ (Clause.mem_values_of_scalar hc hl) hk hl ?_
    rintro rfl
    cases hn
  | @list vs hc =>
    have helement : ∀ v ∈ vs.filter keep,
        Codec.lowerElement encode v = Codec.lowerElement encode' v := by
      intro v hv
      obtain ⟨hv, hk⟩ := List.mem_filter.1 hv
      unfold Codec.lowerElement
      split
      · rfl
      · rename_i hl
        refine h v (Clause.mem_values_of_list hc hv) hk (by simpa using hl) ?_
        rintro rfl
        exact ⟨vs, hc, hv⟩
    exact mapM_congr helement

/-! Demands -/

/-- What the column that a demand is on hands to the codec. -/
def Demand.operand (d : Demand) : Operand :=
  match d.entity.column? d.named.field with
  | none => .nothing
  | some c =>
    if c.references = none then d.named.clause.plainOperand else d.named.clause.keyOperand

/-- Only a plain column hands over unsaved references. -/
theorem Demand.exists_takenFrom (d : Demand) :
    ∃ keep : Value → Bool, d.operand.TakenFrom d.named.clause keep ∧
      ∀ v, keep v = true → v.isStored = false → d.OnPlain := by
  unfold Demand.operand
  cases hc : d.entity.column? d.named.field with
  | none => exact ⟨fun _ => false, .nothing, nofun⟩
  | some c =>
    simp only
    split
    · rename_i hr
      obtain ⟨hm, hf⟩ := Entity.column?_eq_some hc
      exact ⟨_, d.named.clause.takenFrom_plainOperand, fun _ _ _ => ⟨c, hm, hf, hr⟩⟩
    · refine ⟨_, d.named.clause.takenFrom_keyOperand, fun v hk hu => ?_⟩
      simp [hu] at hk

section

variable {schema : Schema} {e : Entity}

theorem Demand.meet_congr {d : Demand} (h : codec.AgreeOn codec' d.operand) :
    d.meet schema codec = d.meet schema codec' := by
  unfold Demand.operand at h
  unfold Demand.meet planField
  cases hc : d.entity.column? d.named.field with
  | none => rfl
  | some c =>
    rw [hc] at h
    cases hr : c.references with
    | none =>
      simp only [hr, if_true] at h
      simp only [hr, plainPredicate_congr h]
    | some target =>
      simp only [hr, reduceCtorEq, if_false] at h
      simp only [hr, keyPredicate_congr h]

theorem Named.branch_congr {n : Named} (h : codec.AgreeOn codec' (Demand.operand ⟨e, n⟩))
    (hbelow : ∀ key related, n.hop? schema e = some (key, related) →
      plan schema codec related n.below = plan schema codec' related n.below) :
    n.branch schema codec e = n.branch schema codec' e := by
  have hfield : planField schema codec e n.field n.clause n.order =
      planField schema codec' e n.field n.clause n.order := Demand.meet_congr h
  rw [Named.branch, Named.branch, hfield]
  cases hf : planField schema codec' e n.field n.clause n.order with
  | error err => rfl
  | ok r =>
    obtain ⟨part, - | related⟩ := r
    · rfl
    · have hhop := hop?_of_planField hf
      simp only [bind, Except.bind, hbelow _ _ hhop]

theorem planAll_congr {ns : List Named}
    (h : ∀ n ∈ ns, n.branch schema codec e = n.branch schema codec' e) :
    planAll schema codec e (ns.map Named.toVisit) =
      planAll schema codec' e (ns.map Named.toVisit) := by
  induction ns with
  | nil => rw [List.map_nil, planAll, planAll]
  | cons n ns ih =>
    obtain ⟨hn, hns⟩ := List.forall_mem_cons.1 h
    rw [List.map_cons, planAll_cons_toVisit, planAll_cons_toVisit, hn, ih hns]

/-- Codecs that agree on what the demands of a scope hand over plan it alike. -/
theorem plan_congr (s : Scope)
    (h : ∀ d ∈ s.demands schema e, codec.AgreeOn codec' d.operand) :
    plan schema codec e s = plan schema codec' e s := by
  induction s using Scope.induction generalizing e with
  | step s ih =>
    rw [Scope.demands_eq] at h
    rw [plan, plan, Visit.ofScope_eq_map]
    refine planAll_congr fun n hn => ?_
    have hown := List.forall_mem_flatMap.1 h n hn
    refine Named.branch_congr (hown _ List.mem_cons_self) fun key related hhop => ?_
    refine ih n hn fun d hd => hown d ?_
    rw [Named.demands, hhop]
    exact List.mem_cons_of_mem _ hd

end

end Compile

end

/-! Specs -/

open Compile

/-- A plain column is compared with an unsaved reference. -/
def Compile.UnsavedOnPlain (ds : List Demand) : Prop :=
  ∃ d ∈ ds, d.OnPlain ∧ ∃ v ∈ d.named.clause.values, v.isStored = false

/-- Null stands in a list. -/
def Compile.NullInList (ds : List Demand) : Prop :=
  ∃ d ∈ ds, ∃ vs, d.named.clause.operand? = some (.list vs) ∧ .null ∈ vs

section

variable {spec : Spec} {schema : Schema} {codec codec' : Codec} {fallbackLimit : UInt64}
  {entity : String}

theorem Spec.toQuery_congr
    (h : ∀ d ∈ spec.demands schema entity, codec.AgreeOn codec' d.operand) :
    spec.toQuery schema codec fallbackLimit entity =
      spec.toQuery schema codec' fallbackLimit entity := by
  rw [Spec.toQuery_eq, Spec.toQuery_eq]
  unfold Spec.demands at h
  cases he : schema entity with
  | none => rfl
  | some e =>
    rw [he] at h
    have hplan := plan_congr _ fun d hd => (h d hd).guarded
    simp only [hplan]

/-- If two codecs agree on all that is no list, then a spec is compiled alike with them, lists being
lowered element by element. They need not agree on unsaved references unless a plain column is
compared with one, nor on null unless it stands in a list. -/
theorem Spec.toQuery_elementwise_congr {encode encode' : Value → Except CodecError Literal}
    (h : ∀ v, v.isList = false →
      (v.isStored = false → UnsavedOnPlain (spec.demands schema entity)) →
      (v = .null → NullInList (spec.demands schema entity)) → encode v = encode' v) :
    spec.toQuery schema (.elementwise encode) fallbackLimit entity =
      spec.toQuery schema (.elementwise encode') fallbackLimit entity := by
  refine Spec.toQuery_congr fun d hd => ?_
  obtain ⟨keep, ho, hplain⟩ := d.exists_takenFrom
  refine agreeOn_elementwise ho fun v hv hk hl hnull => h v hl (fun hu => ?_) fun hn => ?_
  · exact ⟨d, hd, hplain v hk hu, v, hv, hu⟩
  · exact ⟨d, hd, hnull hn⟩

/-- Two codecs that lower lists element by element compile a spec alike if they agree on all that is
no list, but for unsaved references unless a plain column is compared with one, and for null unless
it stands in a list. So the plain codec is never handed a list for a scalar, it fails over an
unsaved reference on a plain column only, and it gives no null to compare with. -/
theorem Spec.toQuery_consults (spec : Spec) (schema : Schema) (fallbackLimit : UInt64)
    (entity : String) :
    (∀ encode encode' : Value → Except CodecError Literal,
      (∀ v, v.isList = false →
        (v.isStored = false → UnsavedOnPlain (spec.demands schema entity)) →
        (v = .null → NullInList (spec.demands schema entity)) → encode v = encode' v) →
      spec.toQuery schema (.elementwise encode) fallbackLimit entity =
        spec.toQuery schema (.elementwise encode') fallbackLimit entity) ∧
    (∀ found, spec.toQuery schema .plain fallbackLimit entity ≠
      .error (.codec (.notScalar found))) ∧
    (∀ name, spec.toQuery schema .plain fallbackLimit entity =
        .error (.codec (.unsavedReference name)) →
      ∃ before d after, spec.demands schema entity = before ++ d :: after ∧
        (∀ b ∈ before, b.IsMet schema Codec.plain.guarded) ∧
        d.meet schema Codec.plain.guarded = .error (.codec (.unsavedReference name)) ∧
        d.OnPlain ∧ .entity ⟨name, none⟩ ∈ d.named.clause.values) ∧
    ∀ q, spec.toQuery schema .plain fallbackLimit entity = .ok q →
      ∀ p ∈ q.predicates ++ q.joins.map (·.condition), ¬ p.ComparesNull := by
  refine ⟨fun _ _ => Spec.toQuery_elementwise_congr, fun found h => ?_, fun name h => ?_,
    fun q => Spec.not_comparesNull_toQuery⟩
  · obtain ⟨before, d, after, -, -, hd⟩ := Spec.firstFailure_of_toQuery h
    obtain ⟨v, -, hv, -⟩ := Demand.exists_plainRefuses hd
    cases hv
  · obtain ⟨before, d, after, hsplit, hmet, hd⟩ := Spec.firstFailure_of_toQuery h
    obtain ⟨v, hmem, hv, hplain⟩ := Demand.exists_plainRefuses hd
    cases hv
    exact ⟨before, d, after, hsplit, hmet, hd, hplain rfl, hmem⟩

end

namespace Staff

/-- A codec with an error of its own for lists, unsaved references and null. -/
def pickyCodec : Codec :=
  .elementwise fun v =>
    if v.isList || !v.isStored || v.isNull then .error (.custom "never asked")
    else Codec.lowerPlain v

theorem consults_managedSpec :
    pickyCodec.lower .null ≠ Codec.plain.lower .null ∧
    managedSpec.toQuery schema pickyCodec 10 "Person" =
      managedSpec.toQuery schema .plain 10 "Person" ∧
    ∃ q, managedSpec.toQuery schema .plain 10 "Person" = .ok q := by
  have hdemands : managedSpec.demands schema "Person" = [managerDemand, nameDemand] :=
    demands_managedSpec
  obtain ⟨hcongr, -⟩ := Spec.toQuery_consults managedSpec schema 10 "Person"
  refine ⟨nofun, hcongr _ _ fun v hl hu hn => ?_, _, rfl⟩
  rw [hdemands] at hu hn
  have hstored : v.isStored = true := by
    by_contra h
    obtain ⟨d, hd, -, w, hw, hwu⟩ := hu (by simpa using h)
    have hsaved : ∀ d ∈ [managerDemand, nameDemand], ∀ w ∈ d.named.clause.values,
        w.isStored = true := by decide
    rw [hsaved d hd w hw] at hwu
    cases hwu
  have hnull : v.isNull = false := by
    cases v with
    | null =>
      obtain ⟨d, hd, vs, hvs, -⟩ := hn rfl
      rcases List.mem_cons.1 hd with rfl | hd
      · cases hvs
      · cases List.mem_singleton.1 hd
        cases hvs
    | _ => rfl
  simp [hl, hstored, hnull]

end Staff

end EntityQuery
