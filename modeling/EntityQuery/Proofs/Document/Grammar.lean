import EntityQuery.Spec.Reader

/-!
The grammar of filter documents. Which rule an object falls under is decided by its keys alone: they
name an operator, or are short for one, or are the fields of a nested filter.
-/

namespace EntityQuery

/-! The grammar -/

/-- The keys `op` and perhaps `value`, with which an object names an operator. -/
structure NamesOperator (keys : List String) : Prop where
  mem : "op" ∈ keys
  only : ∀ key ∈ keys, key = "op" ∨ key = "value"

def operatorNames : List String := ["eq", "ne", "gt", "gte", "lt", "lte", "like", "ilike", "in"]

theorem mem_operatorNames_iff {name : String} :
    name ∈ operatorNames ↔ ∃ op : Operator, op.name = name := by
  have hall : operatorNames = Operator.all.map Operator.name := rfl
  constructor
  · intro h
    rw [hall] at h
    obtain ⟨op, -, hop⟩ := List.mem_map.1 h
    exact ⟨op, hop⟩
  · rintro ⟨op, rfl⟩
    cases op <;> decide

/-- A single key that is an operator or `id`. -/
def IsShorthand (keys : List String) : Prop :=
  ∃ key, keys = [key] ∧ (key = "id" ∨ key ∈ operatorNames)

namespace Json

/-- A value with no object anywhere inside. -/
inductive NoObject : Json → Prop
  | null : NoObject .null
  | bool (b : Bool) : NoObject (.bool b)
  | number (n : Number) : NoObject (.number n)
  | string (s : String) : NoObject (.string s)
  | array {js : List Json} (h : ∀ j ∈ js, NoObject j) : NoObject (.array js)

inductive IsClause : Json → Prop
  | null : IsClause .null
  | bool (b : Bool) : IsClause (.bool b)
  | number (n : Number) : IsClause (.number n)
  | string (s : String) : IsClause (.string s)
  | list {js : List Json} (h : ∀ j ∈ js, j.NoObject) : IsClause (.array js)
  | named {ms : FieldMap Json} (h : NamesOperator ms.fields) {name : String}
    (hop : ms.get? "op" = some (.string name)) (hv : ∀ v ∈ ms.get? "value", v.NoObject) :
    IsClause (.object ms)
  | shorthand {ms : FieldMap Json} (h : IsShorthand ms.fields)
    (hv : ∀ m ∈ ms.entries, m.2.NoObject) : IsClause (.object ms)
  | nested {ms : FieldMap Json} (hn : ¬ NamesOperator ms.fields) (hs : ¬ IsShorthand ms.fields)
    (h : ∀ m ∈ ms.entries, IsClause m.2) : IsClause (.object ms)

inductive IsSortClause : Json → Prop
  | direction {s : String} (h : s.toLower = "asc" ∨ s.toLower = "desc") : IsSortClause (.string s)
  | nested {ms : FieldMap Json} (h : ∀ m ∈ ms.entries, IsSortClause m.2) : IsSortClause (.object ms)

inductive IsCount : Json → Prop
  | null : IsCount .null
  | natural (n : UInt64) : IsCount (.number (.natural n))

inductive IsFilter : Json → Prop
  | null : IsFilter .null
  | object {ms : FieldMap Json} (h : ∀ m ∈ ms.entries, m.2.IsClause) : IsFilter (.object ms)

inductive IsSortOrder : Json → Prop
  | null : IsSortOrder .null
  | object {ms : FieldMap Json} (h : ∀ m ∈ ms.entries, m.2.IsSortClause) :
    IsSortOrder (.object ms)

/-- What may stand at the top of a document, by its key. -/
def IsMember (key : String) (j : Json) : Prop :=
  (key = "where" ∧ j.IsFilter) ∨ (key = "orderBy" ∧ j.IsSortOrder) ∨
    ((key = "limit" ∨ key = "offset") ∧ j.IsCount)

inductive IsDocument : Json → Prop
  | intro {ms : FieldMap Json} (h : ∀ m ∈ ms.entries, IsMember m.1 m.2) : IsDocument (.object ms)

end Json

/-! Forms of objects -/

theorem NamesOperator.not_isShorthand {keys : List String} (h : NamesOperator keys) :
    ¬ IsShorthand keys := by
  rintro ⟨key, rfl, hk⟩
  obtain rfl : "op" = key := List.mem_singleton.1 h.mem
  exact absurd hk (by decide)

section

variable {ms : FieldMap Json}

theorem isShorthand_operator {op : Operator} {v : Json} (h : ms.entries = [(op.name, v)]) :
    IsShorthand ms.fields :=
  ⟨op.name, by rw [FieldMap.fields, h]; rfl, .inr (mem_operatorNames_iff.2 ⟨op, rfl⟩)⟩

theorem isShorthand_id {v : Json} (h : ms.entries = [("id", v)]) : IsShorthand ms.fields :=
  ⟨"id", by rw [FieldMap.fields, h]; rfl, .inl rfl⟩

namespace Json

/-- A value that is missing stands for null. -/
theorem noObject_getD_iff {v? : Option Json} :
    (v?.getD .null).NoObject ↔ ∀ v ∈ v?, v.NoObject := by
  cases v? with
  | none => simpa using NoObject.null
  | some v => simp

theorem isFilter_object_iff : IsFilter (.object ms) ↔ ∀ m ∈ ms.entries, m.2.IsClause :=
  ⟨fun | .object h => h, .object⟩

theorem isSortOrder_object_iff :
    IsSortOrder (.object ms) ↔ ∀ m ∈ ms.entries, m.2.IsSortClause :=
  ⟨fun | .object h => h, .object⟩

theorem isClause_named_iff (h : NamesOperator ms.fields) :
    IsClause (.object ms) ↔ (∃ name, ms.get? "op" = some (.string name)) ∧
      ∀ v ∈ ms.get? "value", v.NoObject := by
  constructor
  · intro hc
    cases hc with
    | named _ hop hv => exact ⟨⟨_, hop⟩, hv⟩
    | shorthand hs => exact absurd hs h.not_isShorthand
    | nested hn => exact absurd h hn
  · rintro ⟨⟨name, hop⟩, hv⟩
    exact .named h hop hv

theorem isClause_shorthand_iff (h : IsShorthand ms.fields) :
    IsClause (.object ms) ↔ ∀ m ∈ ms.entries, m.2.NoObject := by
  refine ⟨fun hc => ?_, .shorthand h⟩
  cases hc with
  | named hn => exact absurd h hn.not_isShorthand
  | shorthand _ hv => exact hv
  | nested _ hs => exact absurd h hs

theorem isClause_nested_iff (hn : ¬ NamesOperator ms.fields) (hs : ¬ IsShorthand ms.fields) :
    IsClause (.object ms) ↔ ∀ m ∈ ms.entries, m.2.IsClause := by
  refine ⟨fun hc => ?_, .nested hn hs⟩
  cases hc with
  | named h => exact absurd h hn
  | shorthand h => exact absurd h hs
  | nested _ _ h => exact h

end Json

end

namespace SpecReader

/-- The form that an object has, by its keys. -/
inductive HasForm (ms : FieldMap Json) : ObjectForm → Prop
  | named (h : NamesOperator ms.fields) {op : Json} (hop : ms.get? "op" = some op) :
    HasForm ms (.named op ((ms.get? "value").getD .null))
  | operator (op : Operator) {v : Json} (h : ms.entries = [(op.name, v)]) :
    HasForm ms (.operator op v)
  | id {v : Json} (h : ms.entries = [("id", v)]) : HasForm ms (.id v)
  | nested (hn : ¬ NamesOperator ms.fields) (hs : ¬ IsShorthand ms.fields) : HasForm ms .nested

theorem hasForm_singleForm {ms : FieldMap Json} (hn : ¬ NamesOperator ms.fields) :
    HasForm ms (singleForm ms.entries) := by
  unfold singleForm
  split
  · rename_i key v he
    have hf : ms.fields = [key] := by rw [FieldMap.fields, he]; rfl
    split
    · rename_i op hop
      rw [← Operator.name_eq_of_ofName? hop] at he
      exact .operator op he
    · rename_i hop
      split
      · rename_i hid
        exact .id (hid ▸ he)
      · rename_i hid
        -- neither an operator nor `id`: a filter on the one field that the key names
        refine .nested hn ?_
        rintro ⟨key', hk, hs⟩
        obtain rfl : key = key' := List.singleton_inj.1 (hf ▸ hk)
        obtain h | h := hs
        · exact hid h
        · obtain ⟨op, rfl⟩ := mem_operatorNames_iff.1 h
          rw [Operator.ofName?_name] at hop
          cases hop
  · rename_i hne
    refine .nested hn ?_
    rintro ⟨key, hk, -⟩
    obtain ⟨⟨key', v⟩, he, -⟩ := List.map_eq_singleton_iff.1 hk
    exact hne key' v he

theorem hasForm_objectForm (ms : FieldMap Json) : HasForm ms (objectForm ms) := by
  unfold objectForm
  split
  · rename_i op hop
    have hmem : "op" ∈ ms.fields := List.mem_map_of_mem (FieldMap.mem_of_get? hop)
    split
    · rename_i hall
      refine .named ⟨hmem, fun key hk => ?_⟩ hop
      simpa using List.all_eq_true.1 hall key hk
    · rename_i hall
      refine hasForm_singleForm fun hn => hall (List.all_eq_true.2 fun key hk => ?_)
      simpa using hn.only key hk
  · rename_i hop
    exact hasForm_singleForm fun hn => FieldMap.get?_eq_none_iff.1 hop hn.mem

end SpecReader

end EntityQuery
