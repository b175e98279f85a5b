import EntityQuery.Proofs.Document.Expressible

/-!
A document for a spec. A comparison is written with its operator as the only key, and an operator
that does not exist by its name under `op`. Reading the document of an expressible spec gives the
spec back, its fields in their order, so the expressible specs are exactly those that are ever read.
-/

namespace EntityQuery

/-! Documents of specs -/

def Json.Number.ofInt (n : Int64) : Json.Number :=
  if h : n < 0 then .negative n h else .natural n.toUInt64

namespace Value

mutual

/-- What a document cannot express is written as null. -/
def toJson : Value → Json
  | .null => .null
  | .bool b => .bool b
  | .int n => .number (.ofInt n)
  | .float x => if h : x.isFinite = true then .number (.float x h) else .null
  | .string s => .string s
  | .entity _ => .null
  | .list vs => .array (toJsonAll vs)

def toJsonAll : List Value → List Json
  | [] => []
  | v :: vs => v.toJson :: toJsonAll vs

end

end Value

namespace Clause

mutual

def toJson : Clause → Json
  | .absent | .null => .null
  | .value v => v.toJson
  | .list vs => .array (Value.toJsonAll vs)
  | .compare op v => .object ⟨[(op.name, v.toJson)]⟩
  | .id v => .object ⟨[("id", v.toJson)]⟩
  | .nested ⟨es⟩ => .object ⟨toJsonMembers es⟩
  | .unrecognized name => .object ⟨[("op", .string name)]⟩

def toJsonMembers : List (String × Clause) → List (String × Json)
  | [] => []
  | (field, c) :: es => (field, c.toJson) :: toJsonMembers es

end

end Clause

namespace SortClause

mutual

def toJson : SortClause → Json
  | .direction d => .string d.keyword
  | .nested ⟨es⟩ => .object ⟨toJsonMembers es⟩

def toJsonMembers : List (String × SortClause) → List (String × Json)
  | [] => []
  | (field, c) :: es => (field, c.toJson) :: toJsonMembers es

end

end SortClause

def Json.ofCount? : Option UInt64 → Json
  | none => .null
  | some n => .number (.natural n)

def Spec.toJson (s : Spec) : Json :=
  .object ⟨[("where", .object ⟨Clause.toJsonMembers s.filter.entries⟩),
    ("orderBy", .object ⟨SortClause.toJsonMembers s.order.entries⟩),
    ("limit", .ofCount? s.limit), ("offset", .ofCount? s.offset)]⟩

/-! Values -/

theorem Json.Number.int?_ofInt (n : Int64) : (Json.Number.ofInt n).int? = some n := by
  unfold ofInt
  split
  · rfl
  · rename_i h
    have hn : 0 ≤ n := Int64.not_lt.1 h
    rw [int?, Int64.toNat_toUInt64_of_le hn, if_pos n.toNatClampNeg_lt, n.ofNat_toNatClampNeg hn]

namespace SpecReader

theorem number_ofInt (field : String) (n : Int64) : number field (.ofInt n) = .ok (.int n) := by
  rw [number, Json.Number.int?_ofInt]

mutual

theorem value_toJson (field : String) :
    ∀ {v : Value}, v.Expressible → value field v.toJson = .ok v ∧ v.toJson.Distinct
  | .null, _ => ⟨rfl, .null⟩
  | .bool b, _ => ⟨rfl, .bool b⟩
  | .int n, _ => ⟨number_ofInt field n, .number _⟩
  | .float x, .float h => by
    rw [Value.toJson, dif_pos h]
    exact ⟨rfl, .number _⟩
  | .string s, _ => ⟨rfl, .string s⟩
  | .list vs, .list h => by
    obtain ⟨hr, hd⟩ := values_toJsonAll field h
    rw [Value.toJson, value, hr]
    exact ⟨rfl, .array hd⟩

theorem values_toJsonAll (field : String) :
    ∀ {vs : List Value}, (∀ v ∈ vs, v.Expressible) →
      values field (Value.toJsonAll vs) = .ok vs ∧ ∀ j ∈ Value.toJsonAll vs, j.Distinct
  | [], _ => ⟨rfl, List.forall_mem_nil _⟩
  | v :: vs, h => by
    obtain ⟨hv, hvs⟩ := List.forall_mem_cons.1 h
    obtain ⟨hr, hd⟩ := value_toJson field hv
    obtain ⟨hrs, hds⟩ := values_toJsonAll field hvs
    rw [Value.toJsonAll, values, hr, hrs]
    exact ⟨rfl, List.forall_mem_cons.2 ⟨hd, hds⟩⟩

end

/-! Clauses -/

/-- A value that is neither null nor a list is a clause by itself. -/
theorem clause_of_value {field : String} {v : Value} (h : v.Expressible) (hn : v.isNull = false)
    (hl : v.isList = false) : clause field v.toJson = .ok (.value v) := by
  cases h with
  | null => cases hn
  | bool b => rw [Value.toJson, clause]
  | int n =>
    rw [Value.toJson, clause, number_ofInt]
    rfl
  | float h =>
    rw [Value.toJson, dif_pos h, clause]
    rfl
  | string s => rw [Value.toJson, clause]
  | list h => cases hl

theorem objectForm_operator (op : Operator) (v : Json) :
    objectForm ⟨[(op.name, v)]⟩ = .operator op v := by
  cases op <;> rfl

theorem objectForm_nested {ms : FieldMap Json} (hn : ¬ NamesOperator ms.fields)
    (hs : ¬ IsShorthand ms.fields) : objectForm ms = .nested := by
  have hform := hasForm_objectForm ms
  generalize objectForm ms = form at hform
  cases hform with
  | named h => exact absurd h hn
  | operator op h => exact absurd (isShorthand_operator h) hs
  | id h => exact absurd (isShorthand_id h) hs
  | nested => rfl

theorem namedClause_of_notMem (field : String) {name : String} (h : name ∉ operatorNames) :
    namedClause field (.string name) .null = .ok (.unrecognized name) := by
  have hname : Operator.ofName? name = none := by
    cases hop : Operator.ofName? name with
    | none => rfl
    | some op => exact absurd (mem_operatorNames_iff.2 ⟨op, Operator.name_eq_of_ofName? hop⟩) h
  rw [namedClause, hname]
  rfl

theorem distinct_object_single {key : String} {j : Json} (h : j.Distinct) :
    (Json.object ⟨[(key, j)]⟩).Distinct :=
  .object (List.pairwise_singleton _ key) (List.forall_mem_singleton.2 h)

theorem fields_toJsonMembers (es : List (String × Clause)) :
    FieldMap.fields ⟨Clause.toJsonMembers es⟩ = FieldMap.fields ⟨es⟩ := by
  induction es with
  | nil => rfl
  | cons e es ih => exact congrArg (e.1 :: ·) ih

theorem filter_of_clauses (what : String) {ms : FieldMap Json} {f : Filter}
    (h : clauses ms.entries = .ok f.entries) (hd : f.Distinct) :
    filter what (.object ms) = .ok f := by
  have hof : FieldMap.ofList f.entries = f := FieldMap.ofList_of_nodup hd
  rw [filter, h]
  show Except.ok (FieldMap.ofList f.entries) = _
  rw [hof]

mutual

/-- A printed clause is read as itself, under whatever field it stands. -/
theorem clause_toJson (field : String) :
    ∀ {c : Clause}, c.Expressible → clause field c.toJson = .ok c ∧ c.toJson.Distinct
  | .null, _ => ⟨by rw [Clause.toJson, clause], .null⟩
  | .value v, .value h hn hl => ⟨clause_of_value h hn hl, (value_toJson field h).2⟩
  | .list vs, .list h => by
    obtain ⟨hr, hd⟩ := values_toJsonAll field h
    rw [Clause.toJson, clause, hr]
    exact ⟨rfl, .array hd⟩
  | .compare op v, .compare _ h => by
    obtain ⟨hr, hd⟩ := value_toJson field h
    rw [Clause.toJson, clause, objectForm_operator]
    refine ⟨?_, distinct_object_single hd⟩
    dsimp only
    rw [hr]
    rfl
  | .id v, .id h => by
    obtain ⟨hr, hd⟩ := value_toJson field h
    rw [Clause.toJson, clause]
    refine ⟨?_, distinct_object_single hd⟩
    show (do return Clause.id (← value field v.toJson)) = _
    rw [hr]
    rfl
  | .unrecognized name, .unrecognized h => by
    rw [Clause.toJson, clause]
    exact ⟨namedClause_of_notMem field h, distinct_object_single (.string name)⟩
  | .nested ⟨es⟩, .nested hd hn hs h => by
    obtain ⟨hr, hds⟩ := clauses_toJsonMembers h
    have hfields := fields_toJsonMembers es
    -- the printed object has the fields of the filter as its keys, so no earlier rule takes it
    rw [Clause.toJson, clause, objectForm_nested (hfields ▸ hn) (hfields ▸ hs)]
    refine ⟨?_, .object ((FieldMap.distinct_congr hfields).2 hd) hds⟩
    dsimp only
    rw [filter_of_clauses field hr hd]
    rfl

theorem clauses_toJsonMembers :
    ∀ {es : List (String × Clause)}, (∀ e ∈ es, e.2.Expressible) →
      clauses (Clause.toJsonMembers es) = .ok es ∧ ∀ m ∈ Clause.toJsonMembers es, m.2.Distinct
  | [], _ => ⟨by rw [Clause.toJsonMembers, clauses], List.forall_mem_nil _⟩
  | (field, c) :: es, h => by
    obtain ⟨hc, hes⟩ := List.forall_mem_cons.1 h
    obtain ⟨hr, hd⟩ := clause_toJson field hc
    obtain ⟨hrs, hds⟩ := clauses_toJsonMembers hes
    rw [Clause.toJsonMembers, clauses, hr, hrs]
    exact ⟨rfl, List.forall_mem_cons.2 ⟨hd, hds⟩⟩

end

/-! Orderings -/

theorem fields_toJsonMembers_order (es : List (String × SortClause)) :
    FieldMap.fields ⟨SortClause.toJsonMembers es⟩ = FieldMap.fields ⟨es⟩ := by
  induction es with
  | nil => rfl
  | cons e es ih => exact congrArg (e.1 :: ·) ih

theorem sortOrder_of_sortClauses (what : String) {ms : FieldMap Json} {o : SortOrder}
    (h : sortClauses ms.entries = .ok o.entries) (hd : o.Distinct) :
    sortOrder what (.object ms) = .ok o := by
  have hof : FieldMap.ofList o.entries = o := FieldMap.ofList_of_nodup hd
  rw [sortOrder, h]
  show Except.ok (FieldMap.ofList o.entries) = _
  rw [hof]

mutual

theorem sortClause_toJson (field : String) :
    ∀ {c : SortClause}, c.Expressible → sortClause field c.toJson = .ok c ∧ c.toJson.Distinct
  | .direction d, _ => by
    rw [SortClause.toJson, sortClause]
    cases d <;> exact ⟨rfl, .string _⟩
  | .nested ⟨es⟩, .nested hd h => by
    obtain ⟨hr, hds⟩ := sortClauses_toJsonMembers h
    have hfields := fields_toJsonMembers_order es
    rw [SortClause.toJson, sortClause, sortOrder_of_sortClauses field hr hd]
    exact ⟨rfl, .object ((FieldMap.distinct_congr hfields).2 hd) hds⟩

theorem sortClauses_toJsonMembers :
    ∀ {es : List (String × SortClause)}, (∀ e ∈ es, e.2.Expressible) →
      sortClauses (SortClause.toJsonMembers es) = .ok es ∧
        ∀ m ∈ SortClause.toJsonMembers es, m.2.Distinct
  | [], _ => ⟨by rw [SortClause.toJsonMembers, sortClauses], List.forall_mem_nil _⟩
  | (field, c) :: es, h => by
    obtain ⟨hc, hes⟩ := List.forall_mem_cons.1 h
    obtain ⟨hr, hd⟩ := sortClause_toJson field hc
    obtain ⟨hrs, hds⟩ := sortClauses_toJsonMembers hes
    rw [SortClause.toJsonMembers, sortClauses, hr, hrs]
    exact ⟨rfl, List.forall_mem_cons.2 ⟨hd, hds⟩⟩

end

/-! Documents -/

theorem filter_toJsonMembers (what : String) {f : Filter} (hd : f.Distinct)
    (h : ∀ e ∈ f.entries, e.2.Expressible) :
    filter what (.object ⟨Clause.toJsonMembers f.entries⟩) = .ok f ∧
      (Json.object ⟨Clause.toJsonMembers f.entries⟩).Distinct := by
  obtain ⟨hr, hds⟩ := clauses_toJsonMembers h
  have hfields := fields_toJsonMembers f.entries
  exact ⟨filter_of_clauses what hr hd, .object ((FieldMap.distinct_congr hfields).2 hd) hds⟩

theorem sortOrder_toJsonMembers (what : String) {o : SortOrder} (hd : o.Distinct)
    (h : ∀ e ∈ o.entries, e.2.Expressible) :
    sortOrder what (.object ⟨SortClause.toJsonMembers o.entries⟩) = .ok o ∧
      (Json.object ⟨SortClause.toJsonMembers o.entries⟩).Distinct := by
  obtain ⟨hr, hds⟩ := sortClauses_toJsonMembers h
  have hfields := fields_toJsonMembers_order o.entries
  exact ⟨sortOrder_of_sortClauses what hr hd,
    .object ((FieldMap.distinct_congr hfields).2 hd) hds⟩

theorem count_ofCount? (key : String) (n : Option UInt64) :
    count key (.ofCount? n) = .ok n ∧ (Json.ofCount? n).Distinct := by
  cases n with
  | none => exact ⟨rfl, .null⟩
  | some n => exact ⟨rfl, .number _⟩

end SpecReader

namespace Spec

theorem ofJson_toJson {s : Spec} (h : s.Expressible) :
    s.toJson.Distinct ∧ ofJson s.toJson = .ok s := by
  obtain ⟨hf, hfd⟩ := SpecReader.filter_toJsonMembers "where" h.filter_distinct h.clauses
  obtain ⟨ho, hod⟩ := SpecReader.sortOrder_toJsonMembers "orderBy" h.order_distinct h.sortClauses
  obtain ⟨hl, hld⟩ := SpecReader.count_ofCount? "limit" s.limit
  obtain ⟨hn, hnd⟩ := SpecReader.count_ofCount? "offset" s.offset
  have hkeys : ["where", "orderBy", "limit", "offset"].Nodup := by decide
  constructor
  · refine .object hkeys ?_
    simp only [List.forall_mem_cons]
    exact ⟨hfd, hod, hld, hnd, List.forall_mem_nil _⟩
  · simp only [ofJson, toJson, List.foldlM_cons, SpecReader.addMember, hf, ho, hl, hn]
    rfl

/-- The specs that documents without repeated keys are read as are the expressible ones, and each of
these is what its own document is read as. -/
theorem expressible_iff (s : Spec) :
    ((∃ j : Json, j.Distinct ∧ ofJson j = .ok s) ↔ s.Expressible) ∧
      (s.Expressible ↔ s.toJson.Distinct ∧ ofJson s.toJson = .ok s) := by
  have hread (j : Json) (h : j.Distinct ∧ ofJson j = .ok s) : s.Expressible :=
    expressible_ofJson h.2 h.1
  exact ⟨⟨fun ⟨j, hj⟩ => hread j hj, fun h => ⟨s.toJson, ofJson_toJson h⟩⟩, ofJson_toJson,
    hread s.toJson⟩

end Spec

end EntityQuery
