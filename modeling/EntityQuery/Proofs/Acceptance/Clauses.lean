import EntityQuery.Proofs.Compile.Shape

/-!
Which clauses a column takes, and what it hands to the codec of each. A clause is compiled if the
column takes it and the codec gives finite literals for what it is handed. Otherwise the error says
what is not supported, or is the codec's own.
-/

namespace EntityQuery

open EntityQuery.Compile
open EntityQuery.Decimal (Binary64)
open EntityQuery.Sql (Comparison Expr Literal)

/-! Operands -/

/-- What a clause hands to the codec. -/
inductive Operand where
  | nothing
  | scalar (v : Value)
  | list (vs : List Value)

namespace Operand

/-- A value as it is handed over; null is not. -/
def ofValue : Value → Operand
  | .null => .nothing
  | .list vs => .list vs
  | v => .scalar v

/-- A bare list is handed over unless it is empty. -/
def ofBare : List Value → Operand
  | [] => .nothing
  | v :: vs => .list (v :: vs)

/-- Where keys are meant, unsaved references are left out first. -/
def ofKeys (vs : List Value) : Operand := ofBare (vs.filter Value.isStored)

def ofKey : Value → Operand
  | .list vs => ofKeys vs
  | .entity ⟨_, none⟩ => .nothing
  | v => ofValue v

/-- The codec gives literals for the operand, and all of them are finite. -/
def Lowers (codec : Codec) : Operand → Prop
  | .nothing => True
  | .scalar v => ∃ l, codec.lower v = .ok l ∧ l.Finite
  | .list vs => ∃ ls, codec.lowerAll vs = .ok ls ∧ ∀ l ∈ ls, l.Finite

/-- The codec's error, or a number that it gives and that is not finite. -/
inductive Fails (codec : Codec) : Operand → CodecError → Prop
  | lower {v : Value} {err : CodecError} (h : codec.lower v = .error err) :
    Fails codec (.scalar v) err
  | lowerAll {vs : List Value} {err : CodecError} (h : codec.lowerAll vs = .error err) :
    Fails codec (.list vs) err
  | nonFinite {v : Value} {x : Binary64} (h : codec.lower v = .ok (.float x))
    (hx : x.isFinite = false) : Fails codec (.scalar v) (.nonFinite x)
  | nonFiniteIn {vs : List Value} {ls : List Literal} {x : Binary64}
    (h : codec.lowerAll vs = .ok ls) (hm : .float x ∈ ls) (hx : x.isFinite = false) :
    Fails codec (.list vs) (.nonFinite x)

theorem Lowers.not_fails {codec : Codec} {o : Operand} (h : o.Lowers codec) (err : CodecError) :
    ¬ o.Fails codec err := by
  intro hf
  cases hf with
  | lower he =>
    obtain ⟨l, hl, -⟩ := h
    rw [he] at hl
    cases hl
  | lowerAll he =>
    obtain ⟨ls, hls, -⟩ := h
    rw [he] at hls
    cases hls
  | nonFinite hv hx =>
    obtain ⟨l, hl, hfin⟩ := h
    rw [hv] at hl
    cases hl
    exact Bool.false_ne_true (hx.symm.trans hfin)
  | nonFiniteIn hv hm hx =>
    obtain ⟨ls, hls, hfin⟩ := h
    rw [hv] at hls
    cases hls
    exact Bool.false_ne_true (hx.symm.trans (hfin _ hm))

end Operand

/-! Plain columns -/

/-- The clauses that a plain column takes. -/
inductive Clause.FitsPlain : Clause → Prop
  | absent : FitsPlain .absent
  | null : FitsPlain .null
  | value (v : Value) : FitsPlain (.value v)
  | list (vs : List Value) : FitsPlain (.list vs)
  | compareNull {op : Operator} (h : op = .eq ∨ op = .ne) : FitsPlain (.compare op .null)
  | oneOf {v : Value} (h : v.isNull = false) : FitsPlain (.compare .inList v)
  | compare {op : Operator} {v : Value} (hn : v.isNull = false) (hl : v.isList = false) :
    FitsPlain (.compare op v)

/-- Why a plain column does not take a clause. -/
inductive Clause.MisfitsPlain : Clause → Unsupported → Prop
  | nullOperand {op : Operator} (he : op ≠ .eq) (hn : op ≠ .ne) :
    MisfitsPlain (.compare op .null) (.nullOperand op)
  | listOperand {op : Operator} (h : op ≠ .inList) (vs : List Value) :
    MisfitsPlain (.compare op (.list vs)) (.listOperand op)
  | id (v : Value) : MisfitsPlain (.id v) .idOfPlainColumn
  | nested (f : Filter) : MisfitsPlain (.nested f) .nestedFilterOfPlainColumn
  | unrecognized (name : String) :
    MisfitsPlain (.unrecognized name) (.unrecognizedOperator name)

def Clause.plainOperand : Clause → Operand
  | .value (.list vs) | .list vs => .ofBare vs
  | .value v | .compare _ v => .ofValue v
  | _ => .nothing

/-! Foreign keys -/

/-- The clauses that a foreign key takes. -/
inductive Clause.FitsKey : Clause → Prop
  | nested (f : Filter) : FitsKey (.nested f)
  | absent : FitsKey .absent
  | null : FitsKey .null
  | value (v : Value) : FitsKey (.value v)
  | id (v : Value) : FitsKey (.id v)
  | list (vs : List Value) : FitsKey (.list vs)
  | compare {op : Operator} (h : op = .eq ∨ op = .inList) (v : Value) : FitsKey (.compare op v)
  | isNotNull : FitsKey (.compare .ne .null)
  | isNot {v : Value} (hl : v.isList = false) (hs : v.isStored = true) :
    FitsKey (.compare .ne v)

/-- Why a foreign key does not take a clause. -/
inductive Clause.MisfitsKey : Clause → Unsupported → Prop
  | operator {op : Operator} (he : op ≠ .eq) (hn : op ≠ .ne) (hi : op ≠ .inList) (v : Value) :
    MisfitsKey (.compare op v) (.operatorOnForeignKey op)
  | list (vs : List Value) : MisfitsKey (.compare .ne (.list vs)) (.notAnIdentifier "list")
  | unsaved {v : Value} (h : v.isStored = false) :
    MisfitsKey (.compare .ne v) (.notAnIdentifier "an unsaved reference")
  | unrecognized (name : String) : MisfitsKey (.unrecognized name) (.unrecognizedOperator name)

def Clause.keyOperand : Clause → Operand
  | .value v | .id v | .compare _ v => .ofKey v
  | .list vs => .ofKeys vs
  | _ => .nothing

theorem Clause.FitsPlain.not_misfits {c : Clause} (h : c.FitsPlain) (r : Unsupported) :
    ¬ c.MisfitsPlain r := by
  intro hm
  cases hm with
  | nullOperand he hn =>
    cases h with
    | compareNull h => exact h.elim he hn
    | oneOf h => exact Bool.noConfusion h
    | compare h _ => exact Bool.noConfusion h
  | listOperand hi vs =>
    cases h with
    | oneOf h => exact hi rfl
    | compare _ h => exact Bool.noConfusion h
  | id v => cases h
  | nested f => cases h
  | unrecognized name => cases h

theorem Clause.FitsKey.not_misfits {c : Clause} (h : c.FitsKey) (r : Unsupported) :
    ¬ c.MisfitsKey r := by
  intro hm
  cases hm with
  | operator he hn hi v =>
    cases h with
    | compare h => exact h.elim he hi
    | isNotNull => exact hn rfl
    | isNot => exact hn rfl
  | list vs =>
    cases h with
    | compare h => simp at h
    | isNot hl => exact Bool.noConfusion hl
  | unsaved hu =>
    cases h with
    | compare h => simp at h
    | isNotNull => exact Bool.noConfusion hu
    | isNot hl hs => exact Bool.false_ne_true (hu.symm.trans hs)
  | unrecognized name => cases h

/-! The codec -/

theorem Codec.checkFinite_error {l : Literal} {err : CodecError} (h : checkFinite l = .error err) :
    ∃ x, l = .float x ∧ x.isFinite = false ∧ err = .nonFinite x := by
  cases l with
  | float x =>
    rw [checkFinite] at h
    split at h
    · cases h
    · rename_i hx
      cases h
      exact ⟨x, rfl, by simpa using hx, rfl⟩
  | _ => cases h

theorem Codec.mapM_checkFinite_error {ls : List Literal} {err : CodecError}
    (h : ls.mapM checkFinite = .error err) :
    ∃ x, .float x ∈ ls ∧ x.isFinite = false ∧ err = .nonFinite x := by
  obtain ⟨l, hl, he⟩ := exists_of_mapM_error h
  obtain ⟨x, rfl, hx, rfl⟩ := checkFinite_error he
  exact ⟨x, hl, hx, rfl⟩

theorem Codec.fails_of_guarded_lower {codec : Codec} {v : Value} {err : CodecError}
    (h : codec.guarded.lower v = .error err) : (Operand.scalar v).Fails codec err := by
  simp only [Codec.guarded] at h
  cases hv : codec.lower v with
  | error err' =>
    rw [hv] at h
    cases h
    exact .lower hv
  | ok l =>
    rw [hv] at h
    obtain ⟨x, rfl, hx, rfl⟩ := checkFinite_error h
    exact .nonFinite hv hx

theorem Codec.fails_of_guarded_lowerAll {codec : Codec} {vs : List Value} {err : CodecError}
    (h : codec.guarded.lowerAll vs = .error err) : (Operand.list vs).Fails codec err := by
  simp only [Codec.guarded] at h
  cases hv : codec.lowerAll vs with
  | error err' =>
    rw [hv] at h
    cases h
    exact .lowerAll hv
  | ok ls =>
    rw [hv] at h
    obtain ⟨x, hm, hx, rfl⟩ := mapM_checkFinite_error h
    exact .nonFiniteIn hv hm hx

namespace Compile

/-! Verdicts -/

/-- All that compiling a clause can come to, where `fits` says that it is taken and `misfits` why it
is not. -/
inductive Verdict (codec : Codec) (site : Site) (fits : Prop) (misfits : Unsupported → Prop)
    (o : Operand) {α : Type} : Except CompileError α → Prop
  | taken (hf : fits) (ho : o.Lowers codec) (a : α) :
    Verdict codec site fits misfits o (.ok a)
  | unsupported {r : Unsupported} (h : misfits r) :
    Verdict codec site fits misfits o (.error (.unsupported site r))
  | refused {err : CodecError} (hf : fits) (h : o.Fails codec err) :
    Verdict codec site fits misfits o (.error (.codec err))

section

variable {codec : Codec} {site : Site} {fits : Prop} {misfits : Unsupported → Prop} {α : Type}

theorem verdict_nothing (hf : fits) (a : α) :
    Verdict codec site fits misfits .nothing (.ok a) :=
  have ho : Operand.nothing.Lowers codec := True.intro
  .taken hf ho a

theorem verdict_scalar (hf : fits) (v : Value) (f : Literal → α) :
    Verdict codec site fits misfits (.scalar v) (do return f (← lower codec.guarded v)) := by
  cases hv : codec.guarded.lower v with
  | error err =>
    have hl : lower codec.guarded v = .error (.codec err) := by rw [lower, hv]; rfl
    rw [hl]
    exact .refused hf (Codec.fails_of_guarded_lower hv)
  | ok l =>
    have hl : lower codec.guarded v = .ok l := by rw [lower, hv]; rfl
    rw [hl]
    have ho : (Operand.scalar v).Lowers codec := ⟨l, Codec.guarded_lower_eq_ok_iff.1 hv⟩
    exact .taken hf ho (f l)

theorem verdict_list (hf : fits) (vs : List Value) (f : List Literal → α) :
    Verdict codec site fits misfits (.list vs) (do return f (← lowerAll codec.guarded vs)) := by
  cases hv : codec.guarded.lowerAll vs with
  | error err =>
    have hl : lowerAll codec.guarded vs = .error (.codec err) := by rw [lowerAll, hv]; rfl
    rw [hl]
    exact .refused hf (Codec.fails_of_guarded_lowerAll hv)
  | ok ls =>
    have hl : lowerAll codec.guarded vs = .ok ls := by rw [lowerAll, hv]; rfl
    rw [hl]
    have ho : (Operand.list vs).Lowers codec := ⟨ls, Codec.guarded_lowerAll_eq_ok_iff.1 hv⟩
    exact .taken hf ho (f ls)

theorem Verdict.some {o : Operand} {x : Except CompileError α}
    (h : Verdict codec site fits misfits o x) :
    Verdict codec site fits misfits o (do return some (← x)) := by
  cases h with
  | taken hf ho a => exact .taken hf ho (Option.some a)
  | unsupported hm => exact .unsupported hm
  | refused hf ho => exact .refused hf ho

theorem Verdict.of_ok {o : Operand} {x : Except CompileError α}
    (h : Verdict codec site fits misfits o x) {a : α} (hx : x = .ok a) : fits ∧ o.Lowers codec := by
  cases h with
  | taken hf ho => exact ⟨hf, ho⟩
  | unsupported => cases hx
  | refused => cases hx

theorem Verdict.of_error {o : Operand} {x : Except CompileError α}
    (h : Verdict codec site fits misfits o x) {err : CompileError} (hx : x = .error err) :
    (∃ r, misfits r ∧ err = .unsupported site r) ∨
      ∃ cause, fits ∧ o.Fails codec cause ∧ err = .codec cause := by
  cases h with
  | taken => cases hx
  | unsupported hm =>
    cases hx
    exact .inl ⟨_, hm, rfl⟩
  | refused hf ho =>
    cases hx
    exact .inr ⟨_, hf, ho, rfl⟩

variable (column : Expr)

theorem verdict_compareNull (op : Operator) :
    Verdict codec site (Clause.compare op .null).FitsPlain (Clause.compare op .null).MisfitsPlain
      .nothing (compareNull site column op) := by
  cases op with
  | eq => exact verdict_nothing (.compareNull (.inl rfl)) _
  | ne => exact verdict_nothing (.compareNull (.inr rfl)) _
  | _ => exact .unsupported (.nullOperand (by simp) (by simp))

theorem comparison?_eq_none_iff {op : Operator} : comparison? op = none ↔ op = .inList := by
  cases op <;> simp [comparison?]

theorem verdict_compareList (op : Operator) (vs : List Value) :
    Verdict codec site (Clause.compare op (.list vs)).FitsPlain
      (Clause.compare op (.list vs)).MisfitsPlain (.list vs)
      (compareValue codec.guarded site column op (.list vs)) := by
  cases hc : comparison? op with
  | none =>
    obtain rfl := comparison?_eq_none_iff.1 hc
    exact verdict_list (.oneOf rfl) vs (membership column)
  | some c =>
    have hi : op ≠ .inList := fun h => by simp [comparison?_eq_none_iff.2 h] at hc
    simp only [compareValue, hc]
    exact .unsupported (.listOperand hi vs)

theorem verdict_compareScalar (op : Operator) {v : Value} (hn : v.isNull = false)
    (hl : v.isList = false) :
    Verdict codec site (Clause.compare op v).FitsPlain (Clause.compare op v).MisfitsPlain
      (.scalar v) (compareValue codec.guarded site column op v) := by
  have hf : (Clause.compare op v).FitsPlain := .compare hn hl
  cases hc : comparison? op with
  | none =>
    rw [compareValue_member hc hn hl]
    exact verdict_scalar hf v fun l => membership column [l]
  | some c =>
    rw [compareValue_compare hc hn hl]
    exact verdict_scalar hf v fun l => Expr.compare c column (.literal l)

theorem verdict_compareValue (op : Operator) (v : Value) :
    Verdict codec site (Clause.compare op v).FitsPlain (Clause.compare op v).MisfitsPlain
      (.ofValue v) (compareValue codec.guarded site column op v) := by
  cases v with
  | null => exact verdict_compareNull column op
  | list vs => exact verdict_compareList column op vs
  | _ => exact verdict_compareScalar column op rfl rfl

theorem verdict_bareList {clause : Clause} (hf : clause.FitsPlain) (vs : List Value)
    (hn : clause.normalized = .list vs) :
    Verdict codec site clause.FitsPlain clause.MisfitsPlain (.ofBare vs)
      (plainPredicate codec.guarded site column clause) := by
  unfold plainPredicate
  rw [hn]
  cases vs with
  | nil => exact verdict_nothing hf _
  | cons v vs => exact verdict_list hf (v :: vs) fun ls => some (membership column ls)

theorem verdict_plainPredicate (clause : Clause) :
    Verdict codec site clause.FitsPlain clause.MisfitsPlain clause.plainOperand
      (plainPredicate codec.guarded site column clause) := by
  cases clause with
  | absent => exact verdict_nothing .absent _
  | null => exact verdict_nothing .null _
  | value v =>
    cases v with
    | null => exact verdict_nothing (.value _) _
    | list vs => exact verdict_bareList column (.value _) vs rfl
    | _ => exact verdict_scalar (.value _) _ fun l => some (Expr.compare .eq column (.literal l))
  | list vs => exact verdict_bareList column (.list vs) vs rfl
  | compare op v => exact (verdict_compareValue column op v).some
  | id v => exact .unsupported (.id v)
  | nested f => exact .unsupported (.nested f)
  | unrecognized name => exact .unsupported (.unrecognized name)

theorem verdict_matchAnyKey (hf : fits) (vs : List Value) :
    Verdict codec site fits misfits (.ofKeys vs) (matchAnyKey codec.guarded column vs) := by
  unfold matchAnyKey Operand.ofKeys
  rw [Value.filter_isStored]
  cases vs.filter (!·.isUnsaved) with
  | nil => exact verdict_nothing hf _
  | cons v vs => exact verdict_list hf (v :: vs) (membership column)

theorem verdict_matchKey (hf : fits) (v : Value) :
    Verdict codec site fits misfits (.ofKey v) (matchKey codec.guarded column v) := by
  cases v with
  | null => exact verdict_nothing hf _
  | list vs => exact verdict_matchAnyKey column hf vs
  | entity r =>
    obtain ⟨name, - | id⟩ := r
    · exact verdict_nothing hf _
    · exact verdict_scalar hf _ fun l => Expr.compare .eq column (.literal l)
  | _ => exact verdict_scalar hf _ fun l => Expr.compare .eq column (.literal l)

theorem verdict_excludeKey (v : Value) :
    Verdict codec site (Clause.compare .ne v).FitsKey (Clause.compare .ne v).MisfitsKey (.ofKey v)
      (excludeKey codec.guarded site column v) := by
  cases v with
  | null => exact verdict_nothing .isNotNull _
  | list vs => exact .unsupported (.list vs)
  | entity r =>
    obtain ⟨name, - | id⟩ := r
    · exact .unsupported (.unsaved rfl)
    · exact verdict_scalar (.isNot rfl rfl) _ fun l => Expr.compare .ne column (.literal l)
  | _ => exact verdict_scalar (.isNot rfl rfl) _ fun l => Expr.compare .ne column (.literal l)

theorem verdict_keyPredicate (clause : Clause) :
    Verdict codec site clause.FitsKey clause.MisfitsKey clause.keyOperand
      (keyPredicate codec.guarded site column clause) := by
  cases clause with
  | absent => exact verdict_nothing .absent _
  | null => exact verdict_nothing .null _
  | nested f => exact verdict_nothing (.nested f) _
  | value v => exact (verdict_matchKey column (.value v) v).some
  | id v => exact (verdict_matchKey column (.id v) v).some
  | list vs => exact (verdict_matchAnyKey column (.list vs) vs).some
  | compare op v =>
    cases op with
    | eq => exact (verdict_matchKey column (.compare (.inl rfl) v) v).some
    | inList => exact (verdict_matchKey column (.compare (.inr rfl) v) v).some
    | ne => exact (verdict_excludeKey column v).some
    | _ => exact .unsupported (.operator (by simp) (by simp) (by simp) v)
  | unrecognized name => exact .unsupported (.unrecognized name)

end

end Compile

end EntityQuery
