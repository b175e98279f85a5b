import EntityQuery.Proofs.Document.Grammar
import EntityQuery.Proofs.Finite.Counts
import EntityQuery.Proofs.Outcome

/-!
The specs that documents can express. What is read from a document whose objects repeat no key is
expressible: it never leaves a field absent, holds no reference, keeps bare nulls and lists in the
forms that are theirs, and has no nested filter that a document would state as a comparison.
-/

namespace EntityQuery

/-! Expressible specs -/

inductive Value.Expressible : Value → Prop
  | null : Expressible .null
  | bool (b : Bool) : Expressible (.bool b)
  | int (n : Int64) : Expressible (.int n)
  | float {x : Decimal.Binary64} (h : x.isFinite = true) : Expressible (.float x)
  | string (s : String) : Expressible (.string s)
  | list {vs : List Value} (h : ∀ v ∈ vs, Expressible v) : Expressible (.list vs)

inductive Clause.Expressible : Clause → Prop
  | null : Expressible .null
  | value {v : Value} (h : v.Expressible) (hn : v.isNull = false) (hl : v.isList = false) :
    Expressible (.value v)
  | list {vs : List Value} (h : ∀ v ∈ vs, v.Expressible) : Expressible (.list vs)
  | compare (op : Operator) {v : Value} (h : v.Expressible) : Expressible (.compare op v)
  | id {v : Value} (h : v.Expressible) : Expressible (.id v)
  | unrecognized {name : String} (h : name ∉ operatorNames) :
    Expressible (.unrecognized name)
  | nested {f : Filter} (hd : f.Distinct) (hn : ¬ NamesOperator f.fields)
    (hs : ¬ IsShorthand f.fields) (h : ∀ e ∈ f.entries, Expressible e.2) : Expressible (.nested f)

inductive SortClause.Expressible : SortClause → Prop
  | direction (d : Direction) : Expressible (.direction d)
  | nested {o : SortOrder} (hd : o.Distinct) (h : ∀ e ∈ o.entries, Expressible e.2) :
    Expressible (.nested o)

structure Spec.Expressible (s : Spec) : Prop where
  filter_distinct : s.filter.Distinct
  clauses : ∀ e ∈ s.filter.entries, e.2.Expressible
  order_distinct : s.order.Distinct
  sortClauses : ∀ e ∈ s.order.entries, e.2.Expressible

/-- No object repeats a key, at whatever depth it stands. -/
inductive Json.Distinct : Json → Prop
  | null : Distinct .null
  | bool (b : Bool) : Distinct (.bool b)
  | number (n : Number) : Distinct (.number n)
  | string (s : String) : Distinct (.string s)
  | array {js : List Json} (h : ∀ j ∈ js, Distinct j) : Distinct (.array js)
  | object {ms : FieldMap Json} (hd : ms.Distinct) (h : ∀ m ∈ ms.entries, Distinct m.2) :
    Distinct (.object ms)

namespace SpecReader

/-! Values -/

/-- A number that no signed word holds is a double, or a count beyond them. -/
theorem isFinite_of_double? {n : Json.Number} {x : Decimal.Binary64} (hint : n.int? = none)
    (hx : n.double? = some x) : x.isFinite = true := by
  cases n with
  | natural n =>
    cases hx
    exact Decimal.Binary64.isFinite_ofCount n
  | negative n hn => cases hint
  | float y hy =>
    cases hx
    exact hy

theorem expressible_number {field : String} {n : Json.Number} {v : Value}
    (h : number field n = .ok v) : v.Expressible ∧ v.isNull = false ∧ v.isList = false := by
  unfold number at h
  cases hint : n.int? with
  | some i =>
    rw [hint] at h
    cases h
    exact ⟨.int i, rfl, rfl⟩
  | none =>
    rw [hint] at h
    dsimp only at h
    split at h
    · rename_i x hx
      cases h
      exact ⟨.float (isFinite_of_double? hint hx), rfl, rfl⟩
    · cases h

mutual

theorem expressible_value {field : String} :
    ∀ {j : Json} {v : Value}, value field j = .ok v → v.Expressible
  | .null, _, h => by
    cases h
    exact .null
  | .bool b, _, h => by
    cases h
    exact .bool b
  | .number n, _, h => (expressible_number h).1
  | .string s, _, h => by
    cases h
    exact .string s
  | .array js, _, h => by
    rw [value] at h
    obtain ⟨vs, hvs, h⟩ := bind_eq_ok_iff.1 h
    cases h
    exact .list (expressible_values hvs)
  | .object _, _, h => nomatch h

theorem expressible_values {field : String} :
    ∀ {js : List Json} {vs : List Value}, values field js = .ok vs → ∀ v ∈ vs, v.Expressible
  | [], _, h => by
    cases h
    exact fun v hv => nomatch hv
  | j :: js, _, h => by
    rw [values] at h
    obtain ⟨v, hv, h⟩ := bind_eq_ok_iff.1 h
    obtain ⟨vs, hvs, h⟩ := bind_eq_ok_iff.1 h
    cases h
    exact List.forall_mem_cons.2 ⟨expressible_value hv, expressible_values hvs⟩

end

/-! Clauses -/

theorem expressible_namedClause {field : String} {op v : Json} {c : Clause}
    (h : namedClause field op v = .ok c) : c.Expressible := by
  unfold namedClause at h
  split at h
  · rename_i name
    obtain ⟨w, hw, h⟩ := bind_eq_ok_iff.1 h
    split at h
    · rename_i op _
      cases h
      exact .compare op (expressible_value hw)
    · rename_i hname
      cases h
      refine .unrecognized fun hn => ?_
      obtain ⟨op, hop⟩ := mem_operatorNames_iff.1 hn
      rw [← hop, Operator.ofName?_name] at hname
      cases hname
  · cases h

theorem map_fst_of_clauses {ms : List (String × Json)} {cs : List (String × Clause)}
    (h : clauses ms = .ok cs) : cs.map (·.1) = ms.map (·.1) := by
  induction ms generalizing cs with
  | nil =>
    rw [clauses] at h
    cases h
    rfl
  | cons m ms ih =>
    obtain ⟨field, j⟩ := m
    rw [clauses] at h
    obtain ⟨c, -, h⟩ := bind_eq_ok_iff.1 h
    obtain ⟨cs, hcs, h⟩ := bind_eq_ok_iff.1 h
    cases h
    exact congrArg (field :: ·) (ih hcs)

/-- The clauses of an object that repeats no key are kept, in their order. -/
theorem clauses_of_filter {what : String} {ms : FieldMap Json} {f : Filter}
    (h : filter what (.object ms) = .ok f) (hd : ms.Distinct) :
    clauses ms.entries = .ok f.entries ∧ f.fields = ms.fields := by
  rw [filter] at h
  obtain ⟨cs, hcs, h⟩ := bind_eq_ok_iff.1 h
  cases h
  have hfields : cs.map (·.1) = ms.fields := map_fst_of_clauses hcs
  rw [FieldMap.ofList_of_nodup (hfields ▸ hd)]
  exact ⟨hcs, hfields⟩

mutual

theorem expressible_clause {field : String} :
    ∀ {j : Json} {c : Clause}, clause field j = .ok c → j.Distinct → c.Expressible
  | .null, _, h, _ => by
    rw [clause] at h
    cases h
    exact .null
  | .bool b, _, h, _ => by
    rw [clause] at h
    cases h
    exact .value (.bool b) rfl rfl
  | .number n, _, h, _ => by
    rw [clause] at h
    obtain ⟨v, hv, h⟩ := bind_eq_ok_iff.1 h
    cases h
    obtain ⟨he, hn, hl⟩ := expressible_number hv
    exact .value he hn hl
  | .string s, _, h, _ => by
    rw [clause] at h
    cases h
    exact .value (.string s) rfl rfl
  | .array js, _, h, _ => by
    rw [clause] at h
    obtain ⟨vs, hvs, h⟩ := bind_eq_ok_iff.1 h
    cases h
    exact .list (expressible_values hvs)
  | .object ⟨ms⟩, _, h, .object hd hms => by
    rw [clause] at h
    have hform := hasForm_objectForm ⟨ms⟩
    generalize objectForm ⟨ms⟩ = form at hform h
    cases hform with
    | named => exact expressible_namedClause h
    | operator op =>
      obtain ⟨v, hv, h⟩ := bind_eq_ok_iff.1 h
      cases h
      exact .compare op (expressible_value hv)
    | id =>
      obtain ⟨v, hv, h⟩ := bind_eq_ok_iff.1 h
      cases h
      exact .id (expressible_value hv)
    | nested hn hs =>
      obtain ⟨f, hf, h⟩ := bind_eq_ok_iff.1 h
      cases h
      -- the filter has the keys of the object, which no rule but the last has taken
      obtain ⟨hcs, hfields⟩ := clauses_of_filter hf hd
      exact .nested ((FieldMap.distinct_congr hfields).2 hd) (hfields ▸ hn) (hfields ▸ hs)
        (expressible_clauses hcs hms)

theorem expressible_clauses :
    ∀ {ms : List (String × Json)} {cs : List (String × Clause)}, clauses ms = .ok cs →
      (∀ m ∈ ms, m.2.Distinct) → ∀ e ∈ cs, e.2.Expressible
  | [], _, h, _ => by
    rw [clauses] at h
    cases h
    exact fun e he => nomatch he
  | (field, j) :: ms, _, h, hd => by
    rw [clauses] at h
    obtain ⟨c, hc, h⟩ := bind_eq_ok_iff.1 h
    obtain ⟨cs, hcs, h⟩ := bind_eq_ok_iff.1 h
    cases h
    obtain ⟨hj, hms⟩ := List.forall_mem_cons.1 hd
    exact List.forall_mem_cons.2 ⟨expressible_clause hc hj, expressible_clauses hcs hms⟩

end

/-! Orderings -/

theorem map_fst_of_sortClauses {ms : List (String × Json)} {cs : List (String × SortClause)}
    (h : sortClauses ms = .ok cs) : cs.map (·.1) = ms.map (·.1) := by
  induction ms generalizing cs with
  | nil =>
    rw [sortClauses] at h
    cases h
    rfl
  | cons m ms ih =>
    obtain ⟨field, j⟩ := m
    rw [sortClauses] at h
    obtain ⟨c, -, h⟩ := bind_eq_ok_iff.1 h
    obtain ⟨cs, hcs, h⟩ := bind_eq_ok_iff.1 h
    cases h
    exact congrArg (field :: ·) (ih hcs)

theorem sortClauses_of_sortOrder {what : String} {ms : FieldMap Json} {o : SortOrder}
    (h : sortOrder what (.object ms) = .ok o) (hd : ms.Distinct) :
    sortClauses ms.entries = .ok o.entries ∧ o.fields = ms.fields := by
  rw [sortOrder] at h
  obtain ⟨cs, hcs, h⟩ := bind_eq_ok_iff.1 h
  cases h
  have hfields : cs.map (·.1) = ms.fields := map_fst_of_sortClauses hcs
  rw [FieldMap.ofList_of_nodup (hfields ▸ hd)]
  exact ⟨hcs, hfields⟩

mutual

theorem expressible_sortClause {field : String} :
    ∀ {j : Json} {c : SortClause}, sortClause field j = .ok c → j.Distinct → c.Expressible
  | .string s, _, h, _ => by
    rw [sortClause] at h
    split at h
    · rename_i d _
      cases h
      exact .direction d
    · cases h
  | .object ⟨ms⟩, _, h, .object hd hms => by
    rw [sortClause] at h
    obtain ⟨o, ho, h⟩ := bind_eq_ok_iff.1 h
    cases h
    obtain ⟨hcs, hfields⟩ := sortClauses_of_sortOrder ho hd
    exact .nested ((FieldMap.distinct_congr hfields).2 hd) (expressible_sortClauses hcs hms)
  | .null, _, h, _ | .bool _, _, h, _ | .number _, _, h, _ | .array _, _, h, _ => by
    simp [sortClause] at h

theorem expressible_sortClauses :
    ∀ {ms : List (String × Json)} {cs : List (String × SortClause)}, sortClauses ms = .ok cs →
      (∀ m ∈ ms, m.2.Distinct) → ∀ e ∈ cs, e.2.Expressible
  | [], _, h, _ => by
    rw [sortClauses] at h
    cases h
    exact fun e he => nomatch he
  | (field, j) :: ms, _, h, hd => by
    rw [sortClauses] at h
    obtain ⟨c, hc, h⟩ := bind_eq_ok_iff.1 h
    obtain ⟨cs, hcs, h⟩ := bind_eq_ok_iff.1 h
    cases h
    obtain ⟨hj, hms⟩ := List.forall_mem_cons.1 hd
    exact List.forall_mem_cons.2 ⟨expressible_sortClause hc hj, expressible_sortClauses hcs hms⟩

end

/-! Documents -/

theorem expressible_filter {what : String} {j : Json} {f : Filter} (h : filter what j = .ok f)
    (hd : j.Distinct) : f.Distinct ∧ ∀ e ∈ f.entries, e.2.Expressible := by
  cases hd with
  | null =>
    rw [filter] at h
    cases h
    exact ⟨FieldMap.distinct_empty, List.forall_mem_nil _⟩
  | object hd hms =>
    obtain ⟨hcs, hfields⟩ := clauses_of_filter h hd
    exact ⟨(FieldMap.distinct_congr hfields).2 hd, expressible_clauses hcs hms⟩
  | _ => simp [filter] at h

theorem expressible_sortOrder {what : String} {j : Json} {o : SortOrder}
    (h : sortOrder what j = .ok o) (hd : j.Distinct) :
    o.Distinct ∧ ∀ e ∈ o.entries, e.2.Expressible := by
  cases hd with
  | null =>
    rw [sortOrder] at h
    cases h
    exact ⟨FieldMap.distinct_empty, List.forall_mem_nil _⟩
  | object hd hms =>
    obtain ⟨hcs, hfields⟩ := sortClauses_of_sortOrder h hd
    exact ⟨(FieldMap.distinct_congr hfields).2 hd, expressible_sortClauses hcs hms⟩
  | _ => simp [sortOrder] at h

theorem expressible_addMember {s s' : Spec} {m : String × Json} (h : addMember s m = .ok s')
    (hs : s.Expressible) (hd : m.2.Distinct) : s'.Expressible := by
  unfold addMember at h
  split at h
  · obtain ⟨f, hf, h⟩ := bind_eq_ok_iff.1 h
    cases h
    obtain ⟨hf, hc⟩ := expressible_filter hf hd
    exact { hs with filter_distinct := hf, clauses := hc }
  · obtain ⟨o, ho, h⟩ := bind_eq_ok_iff.1 h
    cases h
    obtain ⟨ho, hc⟩ := expressible_sortOrder ho hd
    exact { hs with order_distinct := ho, sortClauses := hc }
  · obtain ⟨n, -, h⟩ := bind_eq_ok_iff.1 h
    cases h
    exact { hs with }
  · obtain ⟨n, -, h⟩ := bind_eq_ok_iff.1 h
    cases h
    exact { hs with }
  · cases h

theorem expressible_foldlM_addMember {ms : List (String × Json)} {s s' : Spec}
    (h : ms.foldlM addMember s = .ok s') (hs : s.Expressible) (hd : ∀ m ∈ ms, m.2.Distinct) :
    s'.Expressible := by
  induction ms generalizing s with
  | nil =>
    cases h
    exact hs
  | cons m ms ih =>
    rw [List.foldlM_cons] at h
    obtain ⟨s₁, h₁, h⟩ := bind_eq_ok_iff.1 h
    obtain ⟨hm, hms⟩ := List.forall_mem_cons.1 hd
    exact ih h (expressible_addMember h₁ hs hm) hms

end SpecReader

namespace Spec

theorem expressible_empty : Expressible {} where
  filter_distinct := FieldMap.distinct_empty
  clauses := List.forall_mem_nil _
  order_distinct := FieldMap.distinct_empty
  sortClauses := List.forall_mem_nil _

/-- What a document without repeated keys is read as is expressible. -/
theorem expressible_ofJson {j : Json} {s : Spec} (h : ofJson j = .ok s) (hd : j.Distinct) :
    s.Expressible := by
  unfold ofJson at h
  split at h
  · cases hd with
    | object _ hms => exact SpecReader.expressible_foldlM_addMember h expressible_empty hms
  · cases h

end Spec

end EntityQuery
