import EntityQuery.Proofs.Document.Grammar
import EntityQuery.Proofs.Outcome

/-!
Which documents are read. A document is accepted exactly if it is built as the grammar says, at
whatever depth a clause stands. A filter below the top is never refused for not being an object, and
no number is ever out of range.
-/

namespace EntityQuery

namespace SpecReader

/-! Values -/

theorem exists_number (field : String) (n : Json.Number) : ∃ v, number field n = .ok v := by
  unfold number
  cases n.int? with
  | some i => exact ⟨_, rfl⟩
  | none => cases n <;> exact ⟨_, rfl⟩

mutual

theorem exists_value_iff (field : String) :
    ∀ j : Json, (∃ v, value field j = .ok v) ↔ j.NoObject
  | .null => ⟨fun _ => .null, fun _ => ⟨_, rfl⟩⟩
  | .bool b => ⟨fun _ => .bool b, fun _ => ⟨_, rfl⟩⟩
  | .number n => ⟨fun _ => .number n, fun _ => exists_number field n⟩
  | .string s => ⟨fun _ => .string s, fun _ => ⟨_, rfl⟩⟩
  | .array js => by
    rw [value, exists_bind_pure_iff, exists_values_iff field js]
    exact ⟨.array, fun | .array h => h⟩
  | .object ms => by
    rw [value]
    exact ⟨fun ⟨_, h⟩ => (by cases h), fun h => (by cases h)⟩

theorem exists_values_iff (field : String) :
    ∀ js : List Json, (∃ vs, values field js = .ok vs) ↔ ∀ j ∈ js, j.NoObject
  | [] => by simp [values]
  | j :: js => by
    rw [values, exists_bind_bind_pure_iff, exists_value_iff field j, exists_values_iff field js,
      List.forall_mem_cons]

end

/-! Clauses -/

theorem exists_namedClause_iff (field : String) (op v : Json) :
    (∃ c, namedClause field op v = .ok c) ↔ (∃ name, op = .string name) ∧ v.NoObject := by
  cases op with
  | string name =>
    rw [namedClause, ← exists_value_iff field]
    cases value field v <;> cases Operator.ofName? name <;>
      simp [bind, Except.bind, pure, Except.pure]
  | _ => simp [namedClause]

mutual

theorem exists_filter_iff (what : String) :
    ∀ j : Json, (∃ f, filter what j = .ok f) ↔ j.IsFilter
  | .null => by
    rw [filter]
    exact ⟨fun _ => .null, fun _ => ⟨_, rfl⟩⟩
  | .object ⟨ms⟩ => by
    rw [filter, exists_bind_pure_iff, exists_clauses_iff ms, Json.isFilter_object_iff]
  | .bool _ | .number _ | .string _ | .array _ => by
    simp only [filter, reduceCtorEq, exists_false, false_iff]
    exact fun h => nomatch h
termination_by j => (sizeOf j, 0)

theorem exists_clause_iff (field : String) :
    ∀ j : Json, (∃ c, clause field j = .ok c) ↔ j.IsClause
  | .null => by
    rw [clause]
    exact ⟨fun _ => .null, fun _ => ⟨_, rfl⟩⟩
  | .bool b => by
    rw [clause]
    exact ⟨fun _ => .bool b, fun _ => ⟨_, rfl⟩⟩
  | .number n => by
    rw [clause, exists_bind_pure_iff]
    exact ⟨fun _ => .number n, fun _ => exists_number field n⟩
  | .string s => by
    rw [clause]
    exact ⟨fun _ => .string s, fun _ => ⟨_, rfl⟩⟩
  | .array js => by
    rw [clause, exists_bind_pure_iff, exists_values_iff]
    exact ⟨.list, fun | .list h => h⟩
  | .object ⟨ms⟩ => by
    rw [clause]
    have hform := hasForm_objectForm ⟨ms⟩
    generalize objectForm ⟨ms⟩ = form at hform
    cases hform with
    | named h hop =>
      rw [exists_namedClause_iff, Json.isClause_named_iff h, hop, Json.noObject_getD_iff]
      simp only [Option.some.injEq]
    | operator op h =>
      have hs := isShorthand_operator h
      rw [exists_bind_pure_iff, exists_value_iff, Json.isClause_shorthand_iff hs, h,
        List.forall_mem_singleton]
    | id h =>
      have hs := isShorthand_id h
      rw [exists_bind_pure_iff, exists_value_iff, Json.isClause_shorthand_iff hs, h,
        List.forall_mem_singleton]
    | nested hn hs =>
      rw [exists_bind_pure_iff, exists_filter_iff field (.object ⟨ms⟩), Json.isFilter_object_iff,
        Json.isClause_nested_iff hn hs]
termination_by j => (sizeOf j, 1)

theorem exists_clauses_iff :
    ∀ ms : List (String × Json), (∃ cs, clauses ms = .ok cs) ↔ ∀ m ∈ ms, m.2.IsClause
  | [] => by simp [clauses]
  | (field, j) :: ms => by
    rw [clauses, List.forall_mem_cons, ← exists_clause_iff field j, ← exists_clauses_iff ms]
    exact exists_bind_bind_pure_iff
termination_by ms => (sizeOf ms, 0)

end

/-! Orderings -/

theorem isSome_ofText?_iff (s : String) :
    (Direction.ofText? s).isSome ↔ s.toLower = "asc" ∨ s.toLower = "desc" := by
  have hlower : s.toLower.toList = s.toList.map Char.toLower := String.toList_map
  rw [← String.toList_inj, ← String.toList_inj, hlower]
  unfold Direction.ofText?
  split
  · rename_i h
    simp [h]
  · rename_i h
    simp [h]
  · rename_i h₁ h₂
    simpa using And.intro h₁ h₂

mutual

theorem exists_sortOrder_iff (what : String) :
    ∀ j : Json, (∃ o, sortOrder what j = .ok o) ↔ j.IsSortOrder
  | .null => by
    rw [sortOrder]
    exact ⟨fun _ => .null, fun _ => ⟨_, rfl⟩⟩
  | .object ⟨ms⟩ => by
    rw [sortOrder, exists_bind_pure_iff, exists_sortClauses_iff ms, Json.isSortOrder_object_iff]
  | .bool _ | .number _ | .string _ | .array _ => by
    simp only [sortOrder, reduceCtorEq, exists_false, false_iff]
    exact fun h => nomatch h
termination_by j => (sizeOf j, 0)

theorem exists_sortClause_iff (field : String) :
    ∀ j : Json, (∃ c, sortClause field j = .ok c) ↔ j.IsSortClause
  | .string s => by
    have hs : (∃ c, sortClause field (.string s) = .ok c) ↔ (Direction.ofText? s).isSome := by
      rw [sortClause]
      cases Direction.ofText? s <;> simp
    rw [hs, isSome_ofText?_iff]
    exact ⟨.direction, fun | .direction h => h⟩
  | .object ms => by
    rw [sortClause, exists_bind_pure_iff, exists_sortOrder_iff field (.object ms),
      Json.isSortOrder_object_iff]
    exact ⟨.nested, fun | .nested h => h⟩
  | .null | .bool _ | .number _ | .array _ => by
    simp only [sortClause, reduceCtorEq, exists_false, false_iff]
    exact fun h => nomatch h
termination_by j => (sizeOf j, 1)

theorem exists_sortClauses_iff :
    ∀ ms : List (String × Json), (∃ cs, sortClauses ms = .ok cs) ↔ ∀ m ∈ ms, m.2.IsSortClause
  | [] => by simp [sortClauses]
  | (field, j) :: ms => by
    rw [sortClauses, List.forall_mem_cons, ← exists_sortClause_iff field j,
      ← exists_sortClauses_iff ms]
    exact exists_bind_bind_pure_iff
termination_by ms => (sizeOf ms, 0)

end

/-! Documents -/

theorem exists_count_iff (key : String) (j : Json) : (∃ c, count key j = .ok c) ↔ j.IsCount := by
  cases j with
  | null => exact ⟨fun _ => .null, fun _ => ⟨_, rfl⟩⟩
  | number n =>
    cases n with
    | natural n => exact ⟨fun _ => .natural n, fun _ => ⟨_, rfl⟩⟩
    | _ => exact ⟨fun ⟨_, h⟩ => (nomatch h), fun h => (nomatch h)⟩
  | _ => exact ⟨fun ⟨_, h⟩ => (nomatch h), fun h => (nomatch h)⟩

theorem exists_addMember_iff (s : Spec) (m : String × Json) :
    (∃ s', addMember s m = .ok s') ↔ Json.IsMember m.1 m.2 := by
  unfold addMember
  split
  · rw [exists_bind_pure_iff, exists_filter_iff]
    simp [Json.IsMember]
  · rw [exists_bind_pure_iff, exists_sortOrder_iff]
    simp [Json.IsMember]
  · rw [exists_bind_pure_iff, exists_count_iff]
    simp [Json.IsMember]
  · rw [exists_bind_pure_iff, exists_count_iff]
    simp [Json.IsMember]
  · rename_i hf ho hl hk
    refine iff_of_false (fun ⟨_, h⟩ => nomatch h) ?_
    rintro (⟨h, -⟩ | ⟨h, -⟩ | ⟨h | h, -⟩)
    · exact hf h
    · exact ho h
    · exact hl h
    · exact hk h

theorem exists_foldlM_addMember_iff (ms : List (String × Json)) (s : Spec) :
    (∃ s', ms.foldlM addMember s = .ok s') ↔ ∀ m ∈ ms, Json.IsMember m.1 m.2 := by
  induction ms generalizing s with
  | nil => simp [pure, Except.pure]
  | cons m ms ih =>
    simp only [List.foldlM_cons, bind_eq_ok_iff]
    rw [List.forall_mem_cons, exists_comm, ← exists_addMember_iff s]
    simp only [exists_and_left, ih, exists_and_right]

/-! Refusals -/

/-- The errors that a member of a document can be refused with. Those that name a field come from a
clause, at whatever depth it stands. -/
inductive Refuses (m : String × Json) : SpecError → Prop
  | unknownKey : Refuses m (.unknownKey m.1)
  | notAnObject (hkey : m.1 = "where" ∨ m.1 = "orderBy") (hn : m.2 ≠ .null)
    (ho : ∀ ms, m.2 ≠ .object ms) : Refuses m (.notAnObject m.1)
  | operatorNotText (field : String) (found : Json) : Refuses m (.operatorNotText field found)
  | objectAsValue (field : String) : Refuses m (.objectAsValue field)
  | invalidDirection (field : String) (found : Json) : Refuses m (.invalidDirection field found)
  | invalidCount : Refuses m (.invalidCount m.1 m.2)

section

variable {e : SpecError}

mutual

theorem eq_objectAsValue_of_value {field : String} :
    ∀ j : Json, value field j = .error e → e = .objectAsValue field
  | .null, h | .bool _, h | .string _, h => nomatch h
  | .number n, h => by
    obtain ⟨v, hv⟩ := exists_number field n
    rw [value, hv] at h
    cases h
  | .array js, h => by
    rw [value] at h
    exact eq_objectAsValue_of_values js (eq_error_of_bind_pure h)
  | .object _, h => by
    cases h
    rfl

theorem eq_objectAsValue_of_values {field : String} :
    ∀ js : List Json, values field js = .error e → e = .objectAsValue field
  | [], h => nomatch h
  | j :: js, h => by
    rw [values, bind_eq_error_iff] at h
    obtain h | ⟨v, -, h⟩ := h
    · exact eq_objectAsValue_of_value j h
    · exact eq_objectAsValue_of_values js (eq_error_of_bind_pure h)

end

variable {m : String × Json}

theorem refuses_of_value {field : String} {j : Json} (h : value field j = .error e) :
    Refuses m e := by
  rw [eq_objectAsValue_of_value j h]
  exact .objectAsValue field

theorem refuses_of_namedClause {field : String} {op v : Json}
    (h : namedClause field op v = .error e) : Refuses m e := by
  unfold namedClause at h
  split at h
  · obtain h | ⟨v, -, h⟩ := bind_eq_error_iff.1 h
    · exact refuses_of_value h
    · split at h <;> cases h
  · cases h
    exact .operatorNotText field op

mutual

theorem refuses_of_clause {field : String} :
    ∀ j : Json, clause field j = .error e → Refuses m e
  | .null, h | .bool _, h | .string _, h => by
    rw [clause] at h
    cases h
  | .number n, h => by
    obtain ⟨v, hv⟩ := exists_number field n
    rw [clause, hv] at h
    cases h
  | .array js, h => by
    rw [clause] at h
    rw [eq_objectAsValue_of_values js (eq_error_of_bind_pure h)]
    exact .objectAsValue field
  | .object ⟨ms⟩, h => by
    rw [clause] at h
    split at h
    · exact refuses_of_namedClause h
    · exact refuses_of_value (eq_error_of_bind_pure h)
    · exact refuses_of_value (eq_error_of_bind_pure h)
    · -- what is nested is an object, so that only its members can be refused
      have hf : filter field (.object ⟨ms⟩) = .error e := eq_error_of_bind_pure h
      rw [filter] at hf
      exact refuses_of_clauses ms (eq_error_of_bind_pure hf)

theorem refuses_of_clauses :
    ∀ ms : List (String × Json), clauses ms = .error e → Refuses m e
  | [], h => by
    rw [clauses] at h
    cases h
  | (field, j) :: ms, h => by
    rw [clauses, bind_eq_error_iff] at h
    obtain h | ⟨c, -, h⟩ := h
    · exact refuses_of_clause j h
    · exact refuses_of_clauses ms (eq_error_of_bind_pure h)

end

mutual

theorem refuses_of_sortClause {field : String} :
    ∀ j : Json, sortClause field j = .error e → Refuses m e
  | .string s, h => by
    rw [sortClause] at h
    split at h <;> cases h
    exact .invalidDirection _ _
  | .object ⟨ms⟩, h => by
    rw [sortClause] at h
    have ho : sortOrder field (.object ⟨ms⟩) = .error e := eq_error_of_bind_pure h
    rw [sortOrder] at ho
    exact refuses_of_sortClauses ms (eq_error_of_bind_pure ho)
  | .null, h | .bool _, h | .number _, h | .array _, h => by
    rw [sortClause] at h
    · cases h
      exact .invalidDirection _ _
    all_goals nofun

theorem refuses_of_sortClauses :
    ∀ ms : List (String × Json), sortClauses ms = .error e → Refuses m e
  | [], h => by
    rw [sortClauses] at h
    cases h
  | (field, j) :: ms, h => by
    rw [sortClauses, bind_eq_error_iff] at h
    obtain h | ⟨c, -, h⟩ := h
    · exact refuses_of_sortClause j h
    · exact refuses_of_sortClauses ms (eq_error_of_bind_pure h)

end

theorem refuses_of_filter (hkey : m.1 = "where") (h : filter m.1 m.2 = .error e) :
    Refuses m e := by
  unfold filter at h
  split at h
  · cases h
  · exact refuses_of_clauses _ (eq_error_of_bind_pure h)
  · rename_i hn ho
    cases h
    exact .notAnObject (.inl hkey) hn fun ms => ho ms.entries

theorem refuses_of_sortOrder (hkey : m.1 = "orderBy") (h : sortOrder m.1 m.2 = .error e) :
    Refuses m e := by
  unfold sortOrder at h
  split at h
  · cases h
  · exact refuses_of_sortClauses _ (eq_error_of_bind_pure h)
  · rename_i hn ho
    cases h
    exact .notAnObject (.inr hkey) hn fun ms => ho ms.entries

theorem refuses_of_count (h : count m.1 m.2 = .error e) : Refuses m e := by
  generalize hj : m.2 = j at h
  unfold count at h
  split at h
  · cases h
  · split at h
    · cases h
    · cases h
      exact hj ▸ .invalidCount
  · cases h
    exact hj ▸ .invalidCount

theorem refuses_of_addMember {s : Spec} (h : addMember s m = .error e) : Refuses m e := by
  unfold addMember at h
  split at h
  · exact refuses_of_filter rfl (eq_error_of_bind_pure h)
  · exact refuses_of_sortOrder rfl (eq_error_of_bind_pure h)
  · exact refuses_of_count (eq_error_of_bind_pure h)
  · exact refuses_of_count (eq_error_of_bind_pure h)
  · cases h
    exact .unknownKey

theorem exists_refuses_of_foldlM {ms : List (String × Json)} {s : Spec}
    (h : ms.foldlM addMember s = .error e) : ∃ m ∈ ms, Refuses m e := by
  induction ms generalizing s with
  | nil => cases h
  | cons m ms ih =>
    rw [List.foldlM_cons] at h
    obtain h | ⟨s', -, h⟩ := bind_eq_error_iff.1 h
    · exact ⟨m, List.mem_cons_self, refuses_of_addMember h⟩
    · obtain ⟨m', hm, hr⟩ := ih h
      exact ⟨m', List.mem_cons_of_mem _ hm, hr⟩

end

end SpecReader

/-- An object is missing where a document must have one: at its root, for its filter or for its
ordering. -/
inductive Json.LacksObject : Json → String → Prop
  | document {j : Json} (h : ∀ ms, j ≠ .object ms) : LacksObject j "filter document"
  | member {ms : FieldMap Json} {key : String} {found : Json} (h : (key, found) ∈ ms.entries)
    (hkey : key = "where" ∨ key = "orderBy") (hn : found ≠ .null) (ho : ∀ ns, found ≠ .object ns) :
    LacksObject (.object ms) key

namespace Spec

/-- A document is read exactly if it is built as the grammar says. Only the document itself, its
filter or its ordering can be refused for not being an object, and no number for its size. -/
theorem ofJson_accepts_iff (j : Json) :
    ((∃ s, ofJson j = .ok s) ↔ j.IsDocument) ∧
      (∀ what, ofJson j = .error (.notAnObject what) → j.LacksObject what) ∧
      ∀ field n, ofJson j ≠ .error (.numberOutOfRange field n) := by
  cases j with
  | object ms =>
    refine ⟨?_, fun what h => ?_, fun field n h => ?_⟩
    · rw [ofJson, SpecReader.exists_foldlM_addMember_iff]
      exact ⟨.intro, fun | .intro h => h⟩
    · obtain ⟨m, hm, hr⟩ := SpecReader.exists_refuses_of_foldlM h
      cases hr with
      | notAnObject hkey hn ho => exact .member hm hkey hn ho
    · obtain ⟨m, -, hr⟩ := SpecReader.exists_refuses_of_foldlM h
      cases hr
  | _ =>
    refine ⟨⟨fun ⟨_, h⟩ => (nomatch h), fun h => (nomatch h)⟩, fun what h => ?_, fun _ _ h => ?_⟩
    · cases h
      exact .document fun ms h => (nomatch h)
    · cases h

/-- A number where the filter should stand. -/
theorem lacksObject_numericFilter :
    ofJson (.object ⟨[("where", .number (.natural 5))]⟩) = .error (.notAnObject "where") ∧
      Json.LacksObject (.object ⟨[("where", .number (.natural 5))]⟩) "where" := by
  have h : ofJson (.object ⟨[("where", .number (.natural 5))]⟩) =
      .error (.notAnObject "where") := by
    simp [ofJson, SpecReader.addMember, SpecReader.filter, bind, Except.bind]
  exact ⟨h, (ofJson_accepts_iff _).2.1 "where" h⟩

end Spec

end EntityQuery
