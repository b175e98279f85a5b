import EntityQuery.Proofs.Acceptance.Operands
import EntityQuery.Proofs.Document.Expressible
import EntityQuery.Proofs.Finite.Compilation
import EntityQuery.Proofs.Schema.Catalog

/-!
What can come of a document. Every operand that reaches the codec is written somewhere in the filter
of the document, so it holds no reference and no number that is not finite; and a catalog has every
entity that it names. So a document that is read is compiled, with the plain codec, or else it names
an unknown field, asks for what is not supported, has its page out of range, or nests a list.
-/

namespace EntityQuery

open EntityQuery.Compile
open EntityQuery.Sql (Dialect)

/-! Operands in documents -/

namespace Json

/-- The operands that a clause is written with, here and in the filters below. A value that is
missing stands for null. -/
inductive ClauseOperand : Json → Json → Prop
  | bare {j : Json} (h : ∀ ms, j ≠ .object ms) : ClauseOperand j j
  | named {ms : FieldMap Json} (h : NamesOperator ms.fields) :
    ClauseOperand (.object ms) ((ms.get? "value").getD .null)
  | shorthand {ms : FieldMap Json} {key : String} {v : Json} (h : IsShorthand ms.fields)
    (hm : (key, v) ∈ ms.entries) : ClauseOperand (.object ms) v
  | nested {ms : FieldMap Json} {m : String × Json} {v : Json} (hn : ¬ NamesOperator ms.fields)
    (hs : ¬ IsShorthand ms.fields) (hm : m ∈ ms.entries) (h : ClauseOperand m.2 v) :
    ClauseOperand (.object ms) v

/-- The operands that the filter of a document is written with. -/
inductive HasOperand : Json → Json → Prop
  | intro {ms fs : FieldMap Json} {m : String × Json} {v : Json}
    (hw : ("where", .object fs) ∈ ms.entries) (hm : m ∈ fs.entries) (h : ClauseOperand m.2 v) :
    HasOperand (.object ms) v

/-- An operand of the document is a list with a list in it. -/
def NestsLists (j : Json) : Prop := ∃ js ks, j.HasOperand (.array js) ∧ .array ks ∈ js

end Json

/-- A clause compares with an operand, itself or in the filters below. -/
inductive Clause.HasOperand : Clause → Value → Prop
  | own {c : Clause} {v : Value} (h : c.operand? = some v) : HasOperand c v
  | nested {f : Filter} {e : String × Clause} {v : Value} (he : e ∈ f.entries)
    (h : HasOperand e.2 v) : HasOperand (.nested f) v

theorem Clause.HasOperand.operand?_eq {c : Clause} {v : Value} (h : c.HasOperand v)
    (hc : ∀ f, c ≠ .nested f) : c.operand? = some v := by
  cases h with
  | own h => exact h
  | nested he h => exact absurd rfl (hc _)

namespace SpecReader

/-! Values -/

theorem exists_of_values {field : String} {js : List Json} {vs : List Value}
    (h : values field js = .ok vs) : ∀ v ∈ vs, ∃ j ∈ js, value field j = .ok v := by
  induction js generalizing vs with
  | nil =>
    cases h
    simp
  | cons j js ih =>
    rw [values] at h
    obtain ⟨v, hv, h⟩ := bind_eq_ok_iff.1 h
    obtain ⟨vs, hvs, h⟩ := bind_eq_ok_iff.1 h
    cases h
    refine List.forall_mem_cons.2 ⟨⟨j, List.mem_cons_self, hv⟩, fun v' hv' => ?_⟩
    obtain ⟨j', hj', h'⟩ := ih hvs v' hv'
    exact ⟨j', List.mem_cons_of_mem j hj', h'⟩

/-- Only a list is read as a list. -/
theorem exists_of_value_list {field : String} {j : Json} {vs : List Value}
    (h : value field j = .ok (.list vs)) : ∃ js, j = .array js ∧ values field js = .ok vs := by
  cases j with
  | number n =>
    rw [value] at h
    obtain ⟨-, -, hl⟩ := expressible_number h
    cases hl
  | array js =>
    rw [value] at h
    obtain ⟨ws, hws, h⟩ := bind_eq_ok_iff.1 h
    cases h
    exact ⟨js, rfl, hws⟩
  | _ => simp [value] at h

/-! Clauses -/

theorem exists_clauses_of_filter {what : String} {j : Json} {f : Filter}
    (h : filter what j = .ok f) {e : String × Clause} (he : e ∈ f.entries) :
    ∃ ms cs, j = .object ms ∧ clauses ms.entries = .ok cs ∧ e ∈ cs := by
  cases j with
  | null =>
    rw [filter] at h
    cases h
    cases he
  | object ms =>
    rw [filter] at h
    obtain ⟨cs, hcs, h⟩ := bind_eq_ok_iff.1 h
    cases h
    exact ⟨ms, cs, rfl, hcs, FieldMap.mem_of_mem_ofList he⟩
  | _ => simp [filter] at h

theorem operand_of_namedClause {field : String} {op j : Json} {c : Clause} {v : Value}
    (h : namedClause field op j = .ok c) (hv : c.HasOperand v) : value field j = .ok v := by
  unfold namedClause at h
  split at h
  · obtain ⟨w, hw, h⟩ := bind_eq_ok_iff.1 h
    split at h
    · cases h
      cases hv.operand?_eq nofun
      exact hw
    · cases h
      cases hv.operand?_eq nofun
  · cases h

mutual

/-- What a clause compares with is written in the document. -/
theorem operand_of_clause {field : String} {v : Value} :
    ∀ {j : Json} {c : Clause}, clause field j = .ok c → c.HasOperand v →
      ∃ w field', j.ClauseOperand w ∧ value field' w = .ok v
  | .null, _, h, hv => by
    rw [clause] at h
    cases h
    cases hv.operand?_eq nofun
  | .bool b, _, h, hv => by
    rw [clause] at h
    cases h
    cases hv.operand?_eq nofun
    exact ⟨.bool b, field, .bare nofun, rfl⟩
  | .number n, _, h, hv => by
    rw [clause] at h
    obtain ⟨w, hw, h⟩ := bind_eq_ok_iff.1 h
    cases h
    cases hv.operand?_eq nofun
    exact ⟨.number n, field, .bare nofun, hw⟩
  | .string s, _, h, hv => by
    rw [clause] at h
    cases h
    cases hv.operand?_eq nofun
    exact ⟨.string s, field, .bare nofun, rfl⟩
  | .array js, _, h, hv => by
    rw [clause] at h
    obtain ⟨vs, hvs, h⟩ := bind_eq_ok_iff.1 h
    cases h
    cases hv.operand?_eq nofun
    exact ⟨.array js, field, .bare nofun, by rw [value, hvs]; rfl⟩
  | .object ⟨ms⟩, _, h, hv => by
    rw [clause] at h
    have hform := hasForm_objectForm ⟨ms⟩
    generalize objectForm ⟨ms⟩ = form at hform h
    cases hform with
    | named hn => exact ⟨_, field, .named hn, operand_of_namedClause h hv⟩
    | operator op he =>
      obtain ⟨w, hw, h⟩ := bind_eq_ok_iff.1 h
      cases h
      cases hv.operand?_eq nofun
      exact ⟨_, field, .shorthand (isShorthand_operator he) (he ▸ List.mem_singleton_self _), hw⟩
    | id he =>
      obtain ⟨w, hw, h⟩ := bind_eq_ok_iff.1 h
      cases h
      cases hv.operand?_eq nofun
      exact ⟨_, field, .shorthand (isShorthand_id he) (he ▸ List.mem_singleton_self _), hw⟩
    | nested hn hs =>
      obtain ⟨f, hf, h⟩ := bind_eq_ok_iff.1 h
      cases h
      cases hv with
      | own ho => cases ho
      | nested he hv =>
        obtain ⟨ms', cs, hms, hcs, he⟩ := exists_clauses_of_filter hf he
        cases hms
        obtain ⟨m, hm, w, field', hw, hr⟩ := operand_of_clauses hcs he hv
        exact ⟨w, field', .nested hn hs hm hw, hr⟩

theorem operand_of_clauses {v : Value} :
    ∀ {ms : List (String × Json)} {cs : List (String × Clause)}, clauses ms = .ok cs →
      ∀ {e : String × Clause}, e ∈ cs → e.2.HasOperand v →
        ∃ m ∈ ms, ∃ w field, m.2.ClauseOperand w ∧ value field w = .ok v
  | [], _, h, _, he, _ => by
    rw [clauses] at h
    cases h
    cases he
  | (field, j) :: ms, _, h, e, he, hv => by
    rw [clauses] at h
    obtain ⟨c, hc, h⟩ := bind_eq_ok_iff.1 h
    obtain ⟨cs, hcs, h⟩ := bind_eq_ok_iff.1 h
    cases h
    rcases List.mem_cons.1 he with rfl | he
    · exact ⟨(field, j), List.mem_cons_self, operand_of_clause hc hv⟩
    · obtain ⟨m, hm, hw⟩ := operand_of_clauses hcs he hv
      exact ⟨m, List.mem_cons_of_mem _ hm, hw⟩

end

/-! Filters -/

theorem filter_of_addMember {s s' : Spec} {m : String × Json} (h : addMember s m = .ok s') :
    s'.filter = s.filter ∨ ∃ j, m = ("where", j) ∧ filter "where" j = .ok s'.filter := by
  unfold addMember at h
  split at h
  · obtain ⟨f, hf, h⟩ := bind_eq_ok_iff.1 h
    cases h
    exact .inr ⟨_, rfl, hf⟩
  · obtain ⟨o, -, h⟩ := bind_eq_ok_iff.1 h
    cases h
    exact .inl rfl
  · obtain ⟨n, -, h⟩ := bind_eq_ok_iff.1 h
    cases h
    exact .inl rfl
  · obtain ⟨n, -, h⟩ := bind_eq_ok_iff.1 h
    cases h
    exact .inl rfl
  · cases h

/-- The filter is read from a member, if there is one for it. -/
theorem filter_of_foldlM {ms : List (String × Json)} {s s' : Spec}
    (h : ms.foldlM addMember s = .ok s') :
    s'.filter = s.filter ∨ ∃ j, ("where", j) ∈ ms ∧ filter "where" j = .ok s'.filter := by
  induction ms generalizing s with
  | nil =>
    cases h
    exact .inl rfl
  | cons m ms ih =>
    rw [List.foldlM_cons] at h
    obtain ⟨s₁, h₁, h⟩ := bind_eq_ok_iff.1 h
    rcases ih h with hf | ⟨j, hj, hf⟩
    · rcases filter_of_addMember h₁ with hf₁ | ⟨j, rfl, hf₁⟩
      · exact .inl (hf.trans hf₁)
      · exact .inr ⟨j, List.mem_cons_self, hf ▸ hf₁⟩
    · exact .inr ⟨j, List.mem_cons_of_mem m hj, hf⟩

/-- What the filter of a spec compares with is written in the document that it is read from. -/
theorem operand_of_ofJson {j : Json} {s : Spec} (h : Spec.ofJson j = .ok s)
    {e : String × Clause} (he : e ∈ s.filter.entries) {v : Value} (hv : e.2.HasOperand v) :
    ∃ w field, j.HasOperand w ∧ value field w = .ok v := by
  unfold Spec.ofJson at h
  split at h
  · rcases filter_of_foldlM h with hf | ⟨j, hj, hf⟩
    · rw [hf] at he
      cases he
    · obtain ⟨ms, cs, rfl, hcs, he⟩ := exists_clauses_of_filter hf he
      obtain ⟨m, hm, w, field, hw, hr⟩ := operand_of_clauses hcs he hv
      exact ⟨w, field, .intro hj hm hw, hr⟩
  · cases h

end SpecReader

/-! Operands of demands -/

/-- A scope asks nothing of a field that its filter does not ask. -/
theorem Compile.clause_of_mem_named {s : Scope} {n : Named} (h : n ∈ s.named) :
    n.clause = .absent ∨ (n.field, n.clause) ∈ s.filter.entries := by
  rcases List.mem_append.1 h with h | h
  · obtain ⟨e, -, rfl⟩ := List.mem_map.1 h
    cases hc : s.filter.get? e.1 with
    | none => exact .inl rfl
    | some c => exact .inr (FieldMap.mem_of_get? hc)
  · obtain ⟨e, he, rfl⟩ := List.mem_map.1 h
    exact .inr (List.mem_of_mem_filter he)

/-- What the demands of a scope compare with stands in its filter. -/
theorem Compile.Scope.hasOperand_of_demand {schema : Schema} {e : Entity} (s : Scope) {d : Demand}
    (hd : d ∈ s.demands schema e) {v : Value} (hv : d.named.clause.operand? = some v) :
    ∃ x ∈ s.filter.entries, x.2.HasOperand v := by
  induction s using Scope.induction generalizing e with
  | step s ih =>
    rw [Scope.demands_eq] at hd
    obtain ⟨n, hn, hd⟩ := List.mem_flatMap.1 hd
    have hclause : n.clause.HasOperand v := by
      rcases List.mem_cons.1 hd with rfl | hd
      · exact .own hv
      · cases hh : n.hop? schema e with
        | none =>
          rw [hh] at hd
          cases hd
        | some hop =>
          rw [hh] at hd
          obtain ⟨x, hx, h⟩ := ih n hn hd
          cases hc : n.clause with
          | nested f =>
            rw [Named.below, hc] at hx
            exact .nested hx h
          | _ =>
            rw [Named.below, hc] at hx
            cases hx
    rcases clause_of_mem_named hn with hc | hm
    · rw [hc] at hclause
      cases hclause with
      | own ho => cases ho
    · exact ⟨_, hm, hclause⟩

/-! Values -/

theorem Value.Expressible.items {v : Value} (h : v.Expressible) : ∀ w ∈ v.items, w.Expressible := by
  cases h with
  | list h => exact h
  | null => exact List.forall_mem_singleton.2 .null
  | bool b => exact List.forall_mem_singleton.2 (.bool b)
  | int n => exact List.forall_mem_singleton.2 (.int n)
  | float hx => exact List.forall_mem_singleton.2 (.float hx)
  | string s => exact List.forall_mem_singleton.2 (.string s)

/-- Of what a document can express, the plain codec refuses lists within lists only. -/
theorem Codec.PlainRefuses.eq_nestedList {v : Value} {err : CodecError}
    (h : Codec.PlainRefuses v err) (hv : v.Expressible) :
    err = .nestedList ∧ ∃ vs, v = .list vs := by
  cases h with
  | nonFinite hx =>
    cases hv with
    | float hfinite =>
      rw [hx] at hfinite
      cases hfinite
  | unsaved name => cases hv
  | nested vs => exact ⟨rfl, vs, rfl⟩

/-! Documents -/

/-- The errors that a document can lead to once it is read. -/
inductive Json.LeadsTo (j : Json) : CompileError → Prop
  | unknownField (site : Site) : LeadsTo j (.unknownField site)
  | unsupported (site : Site) (reason : Unsupported) : LeadsTo j (.unsupported site reason)
  | pageOutOfRange (part : PagePart) (n : UInt64) : LeadsTo j (.pageOutOfRange part n)
  | nestedList (h : j.NestsLists) : LeadsTo j (.codec .nestedList)

section

variable {j : Json} {s : Spec} {schema : Schema} {fallbackLimit : UInt64} {entity : String}

/-- The plain codec fails for a list that the document nests in a list. -/
theorem Spec.nestedList_of_codec (hj : Spec.ofJson j = .ok s) {err : CodecError}
    (h : s.toQuery schema .plain fallbackLimit entity = .error (.codec err)) :
    err = .nestedList ∧ j.NestsLists := by
  obtain ⟨before, d, after, hsplit, -, hfail⟩ := Spec.firstFailure_of_toQuery h
  have hd : d ∈ s.demands schema entity := by
    rw [hsplit]
    exact List.mem_append_right _ List.mem_cons_self
  obtain ⟨v, hv, hrefuses, -⟩ := Demand.exists_plainRefuses hfail
  have hread {w : Value} (hw : d.named.clause.operand? = some w) :
      ∃ k field, j.HasOperand k ∧ SpecReader.value field k = .ok w := by
    unfold Spec.demands at hd
    cases he : schema entity with
    | none =>
      rw [he] at hd
      cases hd
    | some e =>
      rw [he] at hd
      obtain ⟨x, hx, hop⟩ := Scope.hasOperand_of_demand _ hd hw
      exact SpecReader.operand_of_ofJson hj hx hop
  obtain ⟨w, hw, hitem⟩ := Clause.exists_operand?_of_mem_values hv
  obtain ⟨_, _, -, hr⟩ := hread hw
  have hexpressible := (SpecReader.expressible_value hr).items v hitem
  obtain ⟨rfl, vs, rfl⟩ := hrefuses.eq_nestedList hexpressible
  obtain ⟨ws, hws, hmem⟩ := Clause.exists_operand?_of_list_mem hv
  obtain ⟨k, field, hk, hr⟩ := hread hws
  obtain ⟨js, rfl, hvalues⟩ := SpecReader.exists_of_value_list hr
  obtain ⟨k', hk', hr'⟩ := SpecReader.exists_of_values hvalues _ hmem
  obtain ⟨ks, rfl, -⟩ := SpecReader.exists_of_value_list hr'
  exact ⟨rfl, js, ks, hk, hk'⟩

/-- Compiled with the plain codec, for an entity of a catalog, a document that is read gives a query
with a text in every dialect. Otherwise it leads to an unknown field, to something unsupported, to a
page out of range, or, if it nests lists, to the codec's error for these. -/
theorem Spec.outcomes_ofJson (hj : Spec.ofJson j = .ok s) {es : List Entity} {c : Catalog}
    (hc : Catalog.ofEntities es = .ok c) (he : entity ∈ es.map (·.name)) (fallbackLimit : UInt64)
    (d : Dialect) :
    (∃ q sql, q.toSql d = .ok sql ∧
      s.compile c.entity? .plain ⟨d, fallbackLimit⟩ entity = .ok ⟨sql, q, d⟩) ∨
    ∃ err, s.compile c.entity? .plain ⟨d, fallbackLimit⟩ entity = .error (.rejected err) ∧
      j.LeadsTo err := by
  rcases Spec.compile_eq d with ⟨q, sql, -, hsql, hq⟩ | ⟨err, hq, herr⟩
  · exact .inl ⟨q, sql, hsql, hq⟩
  · refine .inr ⟨err, herr, ?_⟩
    cases err with
    | unknownField site => exact .unknownField site
    | unsupported site reason => exact .unsupported site reason
    | pageOutOfRange part n => exact .pageOutOfRange part n
    | unknownEntity name =>
      obtain ⟨-, -, rfl⟩ := Catalog.ofEntities_eq_ok_iff.1 hc
      exact absurd hq (Catalog.toQuery_ne_unknownEntity he name)
    | codec err =>
      obtain ⟨rfl, hnests⟩ := Spec.nestedList_of_codec hj hq
      exact .nestedList hnests

end

namespace Staff

/-- People called Ann, or by a list. -/
def nestedListDocument : Json :=
  .object ⟨[("where", .object ⟨[("name", .array [.string "Ann", .array [.string "Bob"]])]⟩)]⟩

def nestedListSpec : Spec where
  filter := ⟨[("name", .list [.string "Ann", .list [.string "Bob"]])]⟩

theorem ofJson_nestedListDocument : Spec.ofJson nestedListDocument = .ok nestedListSpec := by
  simp [nestedListDocument, nestedListSpec, Spec.ofJson, SpecReader.addMember, SpecReader.filter,
    SpecReader.clauses, SpecReader.clause, SpecReader.values, SpecReader.value, bind, Except.bind,
    pure, Except.pure, FieldMap.ofList, FieldMap.insert, FieldMap.insertEntry, FieldMap.empty]

theorem outcomes_nestedListDocument :
    Spec.ofJson nestedListDocument = .ok nestedListSpec ∧
    Catalog.ofEntities [team, person] = .ok catalog ∧
    nestedListSpec.compile catalog.entity? .plain ⟨.postgres, 10⟩ "Person" =
      .error (.rejected (.codec .nestedList)) ∧
    nestedListDocument.NestsLists := by
  have herr : nestedListSpec.compile catalog.entity? .plain ⟨.postgres, 10⟩ "Person" =
      .error (.rejected (.codec .nestedList)) := rfl
  have hc : Catalog.ofEntities [team, person] = .ok catalog := rfl
  have hperson : "Person" ∈ [team, person].map (·.name) := by decide
  refine ⟨ofJson_nestedListDocument, hc, herr, ?_⟩
  rcases Spec.outcomes_ofJson ofJson_nestedListDocument hc hperson 10 .postgres with
    ⟨q, sql, -, hq⟩ | ⟨err, he, hleads⟩
  · rw [herr] at hq
    cases hq
  · rw [herr] at he
    cases he
    cases hleads with
    | nestedList h => exact h

end Staff

end EntityQuery
