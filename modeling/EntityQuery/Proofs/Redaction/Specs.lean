import EntityQuery.Proofs.Compile.Scope
import EntityQuery.Spec.Basic

/-!
Specs without the content of their values. Redacting a value leaves of it whether it is null, an
unsaved reference, a list, and of which elements, or anything else. Two specs have the same shape if
they are equal once redacted: they differ in nothing but what stands in their values.
-/

namespace EntityQuery

namespace Value

mutual

/-- All scalars but null and all saved references look the same. -/
def redact : Value → Value
  | .null => .null
  | .entity ⟨_, none⟩ => .entity ⟨"", none⟩
  | .list vs => .list (redactAll vs)
  | _ => .bool true

def redactAll : List Value → List Value
  | [] => []
  | v :: vs => v.redact :: redactAll vs

end

theorem redactAll_eq_map (vs : List Value) : redactAll vs = vs.map redact := by
  induction vs with
  | nil => rfl
  | cons v vs ih => rw [redactAll, ih, List.map_cons]

theorem isList_redact (v : Value) : v.redact.isList = v.isList := by
  cases v with
  | entity r =>
    obtain ⟨name, - | id⟩ := r <;> simp [redact, isList]
  | _ => simp [redact, isList]

theorem isUnsaved_redact (v : Value) : v.redact.isUnsaved = v.isUnsaved := by
  cases v with
  | entity r =>
    obtain ⟨name, - | id⟩ := r <;> simp [redact, isUnsaved, EntityRef.isSaved]
  | _ => simp [redact, isUnsaved]

end Value

namespace Clause

mutual

/-- The clause with its operand redacted. -/
def redact : Clause → Clause
  | .absent => .absent
  | .null => .null
  | .value v => .value v.redact
  | .list vs => .list (vs.map Value.redact)
  | .compare op v => .compare op v.redact
  | .id v => .id v.redact
  | .nested ⟨es⟩ => .nested ⟨redactAll es⟩
  | .unrecognized _ => .unrecognized ""

def redactAll : List (String × Clause) → List (String × Clause)
  | [] => []
  | (f, c) :: es => (f, c.redact) :: redactAll es

end

theorem redactAll_eq_map (es : List (String × Clause)) :
    redactAll es = es.map fun e => (e.1, e.2.redact) := by
  induction es with
  | nil => rfl
  | cons e es ih => rw [redactAll, ih, List.map_cons]

theorem isNested_redact (c : Clause) : c.redact.isNested = c.isNested := by
  cases c <;> simp [redact, isNested]

end Clause

/-- The filter with all its operands redacted, those of nested filters among them. -/
def Filter.redact (f : Filter) : Filter := ⟨Clause.redactAll f.entries⟩

namespace Filter

theorem get?_redact (f : Filter) (field : String) :
    f.redact.get? field = (f.get? field).map Clause.redact := by
  obtain ⟨es⟩ := f
  simp only [FieldMap.get?, redact]
  induction es with
  | nil => rfl
  | cons e es ih =>
    obtain ⟨f, c⟩ := e
    simp only [Clause.redactAll, List.lookup_cons]
    cases field == f with
    | true => rfl
    | false => exact ih

end Filter

theorem Clause.filterBelow_redact (c : Clause) : c.redact.filterBelow = c.filterBelow.redact := by
  cases c <;> simp [redact, filterBelow, Filter.redact, FieldMap.empty, redactAll]

def Spec.redact (s : Spec) : Spec := { s with filter := s.filter.redact }

/-- The specs ask for the same, but for the content of values. -/
def Spec.SameShape (s s' : Spec) : Prop := s.redact = s'.redact

theorem Spec.sameShape_iff {s s' : Spec} :
    s.SameShape s' ↔ s.filter.redact = s'.filter.redact ∧ s.order = s'.order ∧
      s.limit = s'.limit ∧ s.offset = s'.offset := by
  simp [SameShape, redact]

namespace Compile

def Scope.redact (s : Scope) : Scope := ⟨s.filter.redact, s.order⟩

def Named.redact (n : Named) : Named := { n with clause := n.clause.redact }

theorem Named.below_redact (n : Named) : n.redact.below = n.below.redact := by
  simp only [below, redact, Scope.redact, Clause.filterBelow_redact]

/-- A scope names the same fields for the same orders, each with its clause redacted. -/
theorem Scope.named_redact (s : Scope) : s.redact.named = s.named.map Named.redact := by
  simp only [named, redact, List.map_append, List.map_map]
  congr 1
  · refine List.map_congr_left fun e _ => ?_
    simp only [Filter.get?_redact, Function.comp_apply, Named.redact]
    cases s.filter.get? e.1 <;> simp [Clause.redact]
  · simp only [Filter.redact, Clause.redactAll_eq_map, List.filter_map, List.map_map]
    rfl

end Compile

end EntityQuery
