import EntityQuery.Proofs.Acceptance.Clauses
import EntityQuery.Proofs.Compile.Run
import EntityQuery.Proofs.Schema.Entity

/-!
Which specs are compiled. A scope is well typed at an entity if the entity has each field that the
scope names, if the column takes what is asked of it and the codec its operand, and if the same is
true of each scope below at the entity that the key references. These are just the specs that are
compiled, page and entity permitting, and an error of any other names something that is wrong with
it.
-/

namespace EntityQuery

namespace Compile

/-! Fields -/

/-- An entity takes what a scope asks of one of its fields. -/
inductive Admits (schema : Schema) (codec : Codec) (e : Entity) (n : Named) : Prop
  | plain {c : Column} (hc : c ∈ e.columns ∧ c.field = n.field) (hr : c.references = none)
    (hf : n.clause.FitsPlain) (ho : n.clause.plainOperand.Lowers codec)
    (hd : ∀ o, n.order ≠ some (.nested o))
  | key {c : Column} {target : String} (hc : c ∈ e.columns ∧ c.field = n.field)
    (hr : c.references = some target) (hf : n.clause.FitsKey)
    (ho : n.clause.keyOperand.Lowers codec)
    (ht : n.GoesOn → (schema target).isSome = true)

/-- What is wrong with a field of a scope. -/
inductive FieldFault (schema : Schema) (codec : Codec) (e : Entity) (n : Named) :
    CompileError → Prop
  | unknownField (hf : n.field ∉ e.fields) :
    FieldFault schema codec e n (.unknownField ⟨e.name, n.field⟩)
  | plainClause {c : Column} {r : Unsupported} (hc : c ∈ e.columns ∧ c.field = n.field)
    (hr : c.references = none) (hm : n.clause.MisfitsPlain r) :
    FieldFault schema codec e n (.unsupported ⟨e.name, n.field⟩ r)
  | plainOperand {c : Column} {err : CodecError} (hc : c ∈ e.columns ∧ c.field = n.field)
    (hr : c.references = none) (hf : n.clause.FitsPlain)
    (ho : n.clause.plainOperand.Fails codec err) : FieldFault schema codec e n (.codec err)
  | plainOrder {c : Column} {o : SortOrder} (hc : c ∈ e.columns ∧ c.field = n.field)
    (hr : c.references = none) (hd : n.order = some (.nested o)) :
    FieldFault schema codec e n (.unsupported ⟨e.name, n.field⟩ .nestedOrderOfPlainColumn)
  | keyClause {c : Column} {target : String} {r : Unsupported}
    (hc : c ∈ e.columns ∧ c.field = n.field) (hr : c.references = some target)
    (hm : n.clause.MisfitsKey r) :
    FieldFault schema codec e n (.unsupported ⟨e.name, n.field⟩ r)
  | keyOperand {c : Column} {target : String} {err : CodecError}
    (hc : c ∈ e.columns ∧ c.field = n.field) (hr : c.references = some target)
    (hf : n.clause.FitsKey) (ho : n.clause.keyOperand.Fails codec err) :
    FieldFault schema codec e n (.codec err)
  | unknownTarget {c : Column} {target : String} (hc : c ∈ e.columns ∧ c.field = n.field)
    (hr : c.references = some target) (hg : n.GoesOn) (ht : schema target = none) :
    FieldFault schema codec e n (.unknownEntity target)

section

variable {schema : Schema} {codec : Codec} {e : Entity} {n : Named}

theorem references_unique {c c' : Column} {r r' : Option String}
    (hc : c ∈ e.columns ∧ c.field = n.field) (hr : c.references = r)
    (hc' : c' ∈ e.columns ∧ c'.field = n.field) (hr' : c'.references = r') : r = r' := by
  have heq : some c = some c' :=
    (Entity.column?_eq_some_iff.2 hc).symm.trans (Entity.column?_eq_some_iff.2 hc')
  cases heq
  exact hr.symm.trans hr'

theorem Admits.not_fault (h : Admits schema codec e n) (err : CompileError) :
    ¬ FieldFault schema codec e n err := by
  intro hf
  cases h with
  | plain hc hr hfit ho hd =>
    cases hf with
    | unknownField hf => exact hf (List.mem_map.2 ⟨_, hc⟩)
    | plainClause _ _ hm => exact hfit.not_misfits _ hm
    | plainOperand _ _ _ hfails => exact ho.not_fails _ hfails
    | plainOrder _ _ hd' => exact hd _ hd'
    | keyClause hc' hr' => cases references_unique hc hr hc' hr'
    | keyOperand hc' hr' => cases references_unique hc hr hc' hr'
    | unknownTarget hc' hr' => cases references_unique hc hr hc' hr'
  | key hc hr hfit ho ht =>
    cases hf with
    | unknownField hf => exact hf (List.mem_map.2 ⟨_, hc⟩)
    | plainClause hc' hr' => cases references_unique hc hr hc' hr'
    | plainOperand hc' hr' => cases references_unique hc hr hc' hr'
    | plainOrder hc' hr' => cases references_unique hc hr hc' hr'
    | keyClause _ _ hm => exact hfit.not_misfits _ hm
    | keyOperand _ _ _ hfails => exact ho.not_fails _ hfails
    | unknownTarget hc' hr' hg hnone =>
      cases references_unique hc hr hc' hr'
      have hsome := ht hg
      rw [hnone] at hsome
      cases hsome

theorem checkPlainOrder_eq_ok_iff {site : Site} {order : Option SortClause} :
    checkPlainOrder site order = .ok () ↔ ∀ o, order ≠ some (.nested o) := by
  rcases order with - | ⟨d | o⟩ <;> simp [checkPlainOrder]

theorem checkPlainOrder_error {site : Site} {order : Option SortClause} {err : CompileError}
    (h : checkPlainOrder site order = .error err) :
    (∃ o, order = some (.nested o)) ∧ err = .unsupported site .nestedOrderOfPlainColumn := by
  rcases order with - | ⟨d | o⟩
  · cases h
  · cases h
  · cases h
    exact ⟨⟨o, rfl⟩, rfl⟩

theorem admits_of_planField {r : Part × Option Entity}
    (h : planField schema codec.guarded e n.field n.clause n.order = .ok r) :
    Admits schema codec e n := by
  have hplan := fieldPlan_planField schema codec.guarded e n.field n.clause n.order
  rw [h] at hplan
  cases hplan with
  | plain hc hr hp ho =>
    obtain ⟨hf, hl⟩ := (verdict_plainPredicate _ _).of_ok hp
    exact .plain (Entity.column?_eq_some hc) hr hf hl (checkPlainOrder_eq_ok_iff.1 ho)
  | key hc hr hp hg =>
    obtain ⟨hf, hl⟩ := (verdict_keyPredicate _ _).of_ok hp
    exact .key (Entity.column?_eq_some hc) hr hf hl fun hg' =>
      absurd (goesOn_iff.2 hg') (by simp [hg])
  | related hc hr hp hg ht =>
    obtain ⟨hf, hl⟩ := (verdict_keyPredicate _ _).of_ok hp
    exact .key (Entity.column?_eq_some hc) hr hf hl fun _ => by simp [ht]

theorem fieldFault_of_planField {err : CompileError}
    (h : planField schema codec.guarded e n.field n.clause n.order = .error err) :
    FieldFault schema codec e n err := by
  have hplan := fieldPlan_planField schema codec.guarded e n.field n.clause n.order
  rw [h] at hplan
  cases hplan with
  | unknownField hc => exact .unknownField (Entity.column?_eq_none_iff.1 hc)
  | plainRefused hc hr hp =>
    rcases (verdict_plainPredicate _ _).of_error hp with ⟨r, hm, rfl⟩ | ⟨cause, hf, ho, rfl⟩
    · exact .plainClause (Entity.column?_eq_some hc) hr hm
    · exact .plainOperand (Entity.column?_eq_some hc) hr hf ho
  | orderRefused hc hr hp ho =>
    obtain ⟨⟨o, hd⟩, rfl⟩ := checkPlainOrder_error ho
    exact .plainOrder (Entity.column?_eq_some hc) hr hd
  | keyRefused hc hr hp =>
    rcases (verdict_keyPredicate _ _).of_error hp with ⟨r, hm, rfl⟩ | ⟨cause, hf, ho, rfl⟩
    · exact .keyClause (Entity.column?_eq_some hc) hr hm
    · exact .keyOperand (Entity.column?_eq_some hc) hr hf ho
  | unknownEntity hc hr hp hg ht =>
    exact .unknownTarget (Entity.column?_eq_some hc) hr (goesOn_iff.1 hg) ht

end

/-! Scopes -/

/-- A scope asks of an entity, and of those that its keys reference, what they take. -/
inductive WellTyped (schema : Schema) (codec : Codec) : Entity → Scope → Prop
  | intro {e : Entity} {s : Scope} (fields : ∀ n ∈ s.named, Admits schema codec e n)
    (below : ∀ n ∈ s.named, ∀ key related, n.hop? schema e = some (key, related) →
      WellTyped schema codec related n.below) : WellTyped schema codec e s

/-- What is wrong with a scope: something about a field of it, or of a scope below it. -/
inductive Fault (schema : Schema) (codec : Codec) : Entity → Scope → CompileError → Prop
  | field {e : Entity} {s : Scope} {n : Named} {err : CompileError} (hn : n ∈ s.named)
    (h : FieldFault schema codec e n err) : Fault schema codec e s err
  | related {e related : Entity} {s : Scope} {n : Named} {key : String} {err : CompileError}
    (hn : n ∈ s.named) (hh : n.hop? schema e = some (key, related))
    (h : Fault schema codec related n.below err) : Fault schema codec e s err

section

variable {schema : Schema} {codec : Codec}

theorem WellTyped.not_fault {e : Entity} {s : Scope} {err : CompileError}
    (h : WellTyped schema codec e s) : ¬ Fault schema codec e s err := by
  intro hf
  induction hf with
  | field hn hfault =>
    obtain ⟨fields, -⟩ := h
    exact (fields _ hn).not_fault _ hfault
  | related hn hh _ ih =>
    obtain ⟨-, below⟩ := h
    exact ih (below _ hn _ _ hh)

theorem Planned.wellTyped {e : Entity} {ns : List Named} {p : Plan Unit}
    (h : Planned schema codec.guarded e ns p) :
    ∀ n ∈ ns, Admits schema codec e n ∧ ∀ key related, n.hop? schema e = some (key, related) →
      WellTyped schema codec related n.below := by
  induction h with
  | done => simp
  | field hf hr ih =>
    refine List.forall_mem_cons.2 ⟨⟨admits_of_planField hf, ?_⟩, ih⟩
    intro key related hh
    rw [hop?_of_planField hf] at hh
    cases hh
  | join hf hb hr ihb ih =>
    refine List.forall_mem_cons.2 ⟨⟨admits_of_planField hf, ?_⟩, ih⟩
    intro key related hh
    rw [hop?_of_planField hf] at hh
    cases hh
    exact .intro (fun n hn => (ihb n hn).1) fun n hn => (ihb n hn).2

theorem wellTyped_of_plan (s : Scope) {e : Entity} {p : Plan Unit}
    (h : plan schema codec.guarded e s = .ok p) : WellTyped schema codec e s := by
  have hn := (planned_of_plan s h).wellTyped
  exact .intro (fun n hm => (hn n hm).1) fun n hm => (hn n hm).2

theorem fault_of_plan (s : Scope) {e : Entity} {err : CompileError}
    (h : plan schema codec.guarded e s = .error err) : Fault schema codec e s err := by
  induction s using Scope.induction generalizing e with
  | step s ih =>
    obtain ⟨n, hn, hf | ⟨part, related, hf, hb⟩⟩ := exists_named_of_plan h
    · exact .field hn (fieldFault_of_planField hf)
    · have hh := hop?_of_planField hf
      exact .related hn hh (ih n hn hb)

end

/-! Pages -/

theorem checkRowCount_of_le (part : PagePart) {n : UInt64} (h : n.toNat ≤ Nat.pow 2 63 - 1) :
    checkRowCount part n = .ok n := by
  rw [← maxRowCount_eq] at h
  exact if_pos h

theorem checkRowCount_of_lt (part : PagePart) {n : UInt64} (h : Nat.pow 2 63 - 1 < n.toNat) :
    checkRowCount part n = .error (.pageOutOfRange part n) := by
  rw [← maxRowCount_eq] at h
  exact if_neg (Nat.not_le_of_lt h)

theorem checkRowCount_eq_ok_iff {part : PagePart} {n m : UInt64} :
    checkRowCount part n = .ok m ↔ n.toNat ≤ Nat.pow 2 63 - 1 ∧ m = n := by
  rcases Nat.lt_or_ge (Nat.pow 2 63 - 1) n.toNat with hlt | hle
  · rw [checkRowCount_of_lt part hlt]
    exact ⟨nofun, fun h => absurd h.1 (Nat.not_le_of_lt hlt)⟩
  · rw [checkRowCount_of_le part hle]
    exact ⟨fun h => ⟨hle, (Except.ok.inj h).symm⟩, fun h => congrArg _ h.2.symm⟩

theorem checkRowCount_error {part : PagePart} {n : UInt64} {err : CompileError}
    (h : checkRowCount part n = .error err) :
    Nat.pow 2 63 - 1 < n.toNat ∧ err = .pageOutOfRange part n := by
  rcases Nat.lt_or_ge (Nat.pow 2 63 - 1) n.toNat with hlt | hle
  · rw [checkRowCount_of_lt part hlt] at h
    cases h
    exact ⟨hlt, rfl⟩
  · rw [checkRowCount_of_le part hle] at h
    cases h

theorem exists_checkOffset_iff {offset : Option UInt64} :
    (∃ o, checkOffset offset = .ok o) ↔ ∀ n ∈ offset, n.toNat ≤ Nat.pow 2 63 - 1 := by
  cases offset with
  | none => simp [checkOffset]
  | some n =>
    rcases Nat.lt_or_ge (Nat.pow 2 63 - 1) n.toNat with hlt | hle
    · refine ⟨?_, fun h => absurd (h n rfl) (Nat.not_le_of_lt hlt)⟩
      rintro ⟨o, ho⟩
      rw [checkOffset, checkRowCount_of_lt _ hlt] at ho
      cases ho
    · refine ⟨fun _ m hm => Option.some.inj hm ▸ hle, fun _ => ?_⟩
      rw [checkOffset, checkRowCount_of_le _ hle]
      exact ⟨_, rfl⟩

theorem checkOffset_error {offset : Option UInt64} {err : CompileError}
    (h : checkOffset offset = .error err) :
    ∃ n, offset = some n ∧ Nat.pow 2 63 - 1 < n.toNat ∧ err = .pageOutOfRange .offset n := by
  cases offset with
  | none => cases h
  | some n =>
    cases hn : checkRowCount .offset n with
    | ok m =>
      rw [checkOffset, hn] at h
      cases h
    | error err' =>
      rw [checkOffset, hn] at h
      cases h
      exact ⟨n, rfl, checkRowCount_error hn⟩

end Compile

open Compile

/-! Specs -/

/-- Why a spec is refused. Its page comes first, then its entity, then what it asks of it. -/
inductive Spec.Refusal (spec : Spec) (schema : Schema) (codec : Codec) (fallbackLimit : UInt64)
    (entity : String) : CompileError → Prop
  | limit (h : Nat.pow 2 63 - 1 < (spec.limit.getD fallbackLimit).toNat) :
    Refusal spec schema codec fallbackLimit entity
      (.pageOutOfRange .limit (spec.limit.getD fallbackLimit))
  | offset {n : UInt64} (hl : (spec.limit.getD fallbackLimit).toNat ≤ Nat.pow 2 63 - 1)
    (ho : spec.offset = some n) (h : Nat.pow 2 63 - 1 < n.toNat) :
    Refusal spec schema codec fallbackLimit entity (.pageOutOfRange .offset n)
  | entity (hl : (spec.limit.getD fallbackLimit).toNat ≤ Nat.pow 2 63 - 1)
    (ho : ∀ n ∈ spec.offset, n.toNat ≤ Nat.pow 2 63 - 1) (h : schema entity = none) :
    Refusal spec schema codec fallbackLimit entity (.unknownEntity entity)
  | scope {e : Entity} {err : CompileError}
    (hl : (spec.limit.getD fallbackLimit).toNat ≤ Nat.pow 2 63 - 1)
    (ho : ∀ n ∈ spec.offset, n.toNat ≤ Nat.pow 2 63 - 1) (he : schema entity = some e)
    (h : Fault schema codec e ⟨spec.filter, spec.order⟩ err) :
    Refusal spec schema codec fallbackLimit entity err

section

variable {spec : Spec} {schema : Schema} {codec : Codec} {fallbackLimit : UInt64} {entity : String}

theorem Spec.refusal_of_toQuery {err : CompileError}
    (h : spec.toQuery schema codec fallbackLimit entity = .error err) :
    spec.Refusal schema codec fallbackLimit entity err := by
  have hout := spec.outcome_toQuery schema codec fallbackLimit entity
  rw [h] at hout
  cases hout with
  | limitRefused hl =>
    obtain ⟨hlt, rfl⟩ := checkRowCount_error hl
    exact .limit hlt
  | offsetRefused hl ho =>
    obtain ⟨n, hn, hlt, rfl⟩ := checkOffset_error ho
    exact .offset (checkRowCount_eq_ok_iff.1 hl).1 hn hlt
  | unknownEntity hl ho he =>
    exact .entity (checkRowCount_eq_ok_iff.1 hl).1 (exists_checkOffset_iff.1 ⟨_, ho⟩) he
  | refused hl ho he hp =>
    have hf := fault_of_plan _ hp
    exact .scope (checkRowCount_eq_ok_iff.1 hl).1 (exists_checkOffset_iff.1 ⟨_, ho⟩) he hf

theorem Spec.Refusal.not_wellTyped {err : CompileError} {e : Entity}
    (h : spec.Refusal schema codec fallbackLimit entity err)
    (hl : (spec.limit.getD fallbackLimit).toNat ≤ Nat.pow 2 63 - 1)
    (ho : ∀ n ∈ spec.offset, n.toNat ≤ Nat.pow 2 63 - 1) (he : schema entity = some e) :
    ¬ WellTyped schema codec e ⟨spec.filter, spec.order⟩ := by
  intro hw
  cases h with
  | limit hlt => exact Nat.not_lt_of_le hl hlt
  | offset _ hn hlt => exact Nat.not_lt_of_le (ho _ hn) hlt
  | entity _ _ hnone =>
    rw [he] at hnone
    cases hnone
  | scope _ _ he' hf =>
    rw [he] at he'
    cases he'
    exact hw.not_fault hf

end

/-- A spec is compiled exactly if its page is in range and it is well typed at an entity of the
schema; and what an error says of any other spec is so. -/
theorem Spec.toQuery_accepts_iff (spec : Spec) (schema : Schema) (codec : Codec)
    (fallbackLimit : UInt64) (entity : String) :
    ((∃ q, spec.toQuery schema codec fallbackLimit entity = .ok q) ↔
      (spec.limit.getD fallbackLimit).toNat ≤ Nat.pow 2 63 - 1 ∧
      (∀ n ∈ spec.offset, n.toNat ≤ Nat.pow 2 63 - 1) ∧
      ∃ e, schema entity = some e ∧ WellTyped schema codec e ⟨spec.filter, spec.order⟩) ∧
    ∀ err, spec.toQuery schema codec fallbackLimit entity = .error err →
      spec.Refusal schema codec fallbackLimit entity err := by
  refine ⟨⟨?_, ?_⟩, fun err => Spec.refusal_of_toQuery⟩
  · rintro ⟨q, hq⟩
    obtain ⟨e, p, limit, offset, hl, ho, he, hp, -⟩ := Spec.exists_plan_of_toQuery hq
    exact ⟨(checkRowCount_eq_ok_iff.1 hl).1, exists_checkOffset_iff.1 ⟨offset, ho⟩, e, he,
      wellTyped_of_plan _ hp⟩
  · rintro ⟨hl, ho, e, he, hw⟩
    cases hq : spec.toQuery schema codec fallbackLimit entity with
    | ok q => exact ⟨q, rfl⟩
    | error err => exact absurd hw ((Spec.refusal_of_toQuery hq).not_wellTyped hl ho he)

end EntityQuery
