import EntityQuery.Proofs.Compile.Plan
import EntityQuery.Proofs.Rendering.Rewriting
import EntityQuery.Proofs.Schema.Entity

/-!
Different spellings of one filter. Some clauses ask the same of a column in different words, more of
them if it is a foreign key; they are planned alike, with the same error or with predicates that are
written alike.
-/

namespace EntityQuery

/-- The field is stored in a foreign key. -/
def Entity.IsKey (e : Entity) (field : String) : Prop :=
  ∃ c ∈ e.columns, c.field = field ∧ c.references.isSome = true

/-- The entity that a field points at. -/
def Entity.related? (schema : Schema) (e : Entity) (field : String) : Option Entity := do
  let c ← e.columns.find? (·.field == field)
  let target ← c.references
  schema target

/-- Two clauses that ask the same of a field. No stored key is that of an instance that was never
stored, so among the keys to look for, such references are left out. -/
inductive Clause.Synonym (e : Entity) (field : String) : Clause → Clause → Prop
  | valueNull : Synonym e field (.value .null) .null
  | eqNull : Synonym e field (.compare .eq .null) .null
  | valueList (vs : List Value) : Synonym e field (.value (.list vs)) (.list vs)
  | inList (vs : List Value) : Synonym e field (.compare .inList (.list vs)) (.list vs)
  | eqValue {v : Value} (h : v.isList = false) : Synonym e field (.compare .eq v) (.value v)
  | keyId (hk : e.IsKey field) (v : Value) : Synonym e field (.id v) (.value v)
  | keyEq (hk : e.IsKey field) (v : Value) : Synonym e field (.compare .eq v) (.value v)
  | keyIn (hk : e.IsKey field) (v : Value) : Synonym e field (.compare .inList v) (.value v)
  | unsaved (hk : e.IsKey field) {v : Value} (hv : v.isStored = false) (vs vs' : List Value) :
    Synonym e field (.list (vs ++ v :: vs')) (.list (vs ++ vs'))
  | noneSaved (hk : e.IsKey field) {v : Value} (hv : v.isStored = false) {vs : List Value}
    (hvs : ∀ v ∈ vs, v.isStored = false) : Synonym e field (.list vs) (.value v)

/-- The entries of two filters of an entity that differ in their spelling: in clauses that ask the
same, and in entries that ask nothing of a field that there is, wherever they stand. A nested filter
is respelled as one of the entity that the key references, if it references any. -/
inductive Filter.Respelled (schema : Schema) :
    Entity → List (String × Clause) → List (String × Clause) → Prop
  | refl {e : Entity} (es : List (String × Clause)) : Respelled schema e es es
  | symm {e : Entity} {es es' : List (String × Clause)} (h : Respelled schema e es es') :
    Respelled schema e es' es
  | trans {e : Entity} {es es' es'' : List (String × Clause)} (h : Respelled schema e es es')
    (h' : Respelled schema e es' es'') : Respelled schema e es es''
  | clause {e : Entity} {field : String} {c c' : Clause} (h : c.Synonym e field c')
    (es : List (String × Clause)) : Respelled schema e ((field, c) :: es) ((field, c') :: es)
  | absent {e : Entity} {field : String} {es : List (String × Clause)} (hf : field ∈ e.fields)
    (hes : field ∉ es.map (·.1)) : Respelled schema e ((field, .absent) :: es) es
  | nested {e : Entity} {field : String} {bs bs' : List (String × Clause)}
    (h : ∀ related, e.related? schema field = some related → Respelled schema related bs bs')
    (es : List (String × Clause)) :
    Respelled schema e ((field, .nested ⟨bs⟩) :: es) ((field, .nested ⟨bs'⟩) :: es)
  | cons {e : Entity} {es es' : List (String × Clause)} (entry : String × Clause)
    (h : Respelled schema e es es') : Respelled schema e (entry :: es) (entry :: es')

namespace Compile

open EntityQuery.Sql (Expr)

/-! Predicates -/

/-- A predicate that may be asked for, settled. -/
abbrev settledPredicate (p : Except CompileError (Option Expr)) :
    Except CompileError (Option Expr) := p.map (Option.map Expr.settled)

section

variable {e : Entity} {field : String} {clause clause' : Clause} {c : Column}

theorem matchAnyKey_unsaved (codec : Codec) (column : Expr) {v : Value} (hv : v.isStored = false)
    (vs vs' : List Value) :
    matchAnyKey codec column (vs ++ v :: vs') = matchAnyKey codec column (vs ++ vs') := by
  have hfilter : (vs ++ v :: vs').filter Value.isStored = (vs ++ vs').filter Value.isStored := by
    simp [hv]
  rw [Value.filter_isStored, Value.filter_isStored] at hfilter
  rw [matchAnyKey, hfilter]
  rfl

theorem matchAnyKey_noneSaved (codec : Codec) (column : Expr) {vs : List Value}
    (hvs : ∀ v ∈ vs, v.isStored = false) : matchAnyKey codec column vs = .ok .never := by
  have hfilter : vs.filter Value.isStored = [] := by simpa using hvs
  rw [matchAnyKey, ← Value.filter_isStored, hfilter]

theorem matchKey_unsaved (codec : Codec) (column : Expr) {v : Value} (hv : v.isStored = false) :
    matchKey codec column v = .ok .never := by
  cases v with
  | entity r =>
    have hu : (Value.entity r).isUnsaved = true := by simpa [Value.isStored_eq] using hv
    exact if_pos hu
  | _ => cases hv

theorem plainPredicate_eqValue (codec : Codec) (site : Site) (column : Expr) {v : Value}
    (h : v.isList = false) :
    plainPredicate codec site column (.compare .eq v) =
      plainPredicate codec site column (.value v) := by
  cases v with
  | list vs => cases h
  | null => rfl
  | _ => simp [plainPredicate, Clause.normalized, compareValue, comparison?]

/-- On a plain column, only an empty list makes a difference, which is gone once it is settled. -/
theorem plainPredicate_synonym (h : clause.Synonym e field clause') (hc : e.column? field = some c)
    (hr : c.references = none) (encode : Value → Except CodecError Sql.Literal) (site : Site)
    (c' : String) :
    settledPredicate (plainPredicate (Codec.elementwise encode).guarded site (.column none c')
      clause) =
    settledPredicate (plainPredicate (Codec.elementwise encode).guarded site (.column none c')
      clause') := by
  have hkey : ¬ e.IsKey field := by
    rintro ⟨c', hm, hf, hr'⟩
    rw [Entity.column?_eq_some_iff.2 ⟨hm, hf⟩] at hc
    cases hc
    rw [hr] at hr'
    cases hr'
  cases h with
  | valueNull | eqNull | valueList vs => rfl
  | inList vs =>
    cases vs with
    | nil => rfl
    | cons v vs => simp [plainPredicate, Clause.normalized, compareValue, comparison?]
  | eqValue h => rw [plainPredicate_eqValue _ _ _ h]
  | keyId hk | keyEq hk | keyIn hk | unsaved hk | noneSaved hk => exact absurd hk hkey

/-- On a foreign key, the very predicate is the same. -/
theorem keyPredicate_synonym (h : clause.Synonym e field clause') (codec : Codec) (site : Site)
    (column : Expr) :
    keyPredicate codec site column clause = keyPredicate codec site column clause' := by
  cases h with
  | unsaved hk hv vs vs' => rw [keyPredicate, keyPredicate, matchAnyKey_unsaved codec column hv]
  | noneSaved hk hv hvs =>
    rw [keyPredicate, keyPredicate, matchAnyKey_noneSaved codec column hvs,
      matchKey_unsaved codec column hv]
  | _ => rfl

theorem isNested_synonym (h : clause.Synonym e field clause') :
    clause.isNested = false ∧ clause'.isNested = false := by
  cases h <;> exact ⟨rfl, rfl⟩

end

end Compile

end EntityQuery
