import EntityQuery.Proofs.Compile.Plan
import EntityQuery.Proofs.Outcome

/-!
The shapes of compiled expressions. Whatever the clause, its predicate is a null test, a comparison
with a literal or a membership in literals, all of the one column, or the predicate that no row
meets. The literals are those that the codec gives, and so they are finite, since it is kept from
giving others. Joins compare two columns, and order terms are columns.
-/

namespace EntityQuery

open EntityQuery.Sql (Expr Comparison Literal)

/-! Finite literals -/

def Sql.Literal.Finite : Literal → Prop
  | .float x => x.isFinite = true
  | _ => True

theorem Codec.checkFinite_eq_ok_iff {l l' : Literal} :
    checkFinite l = .ok l' ↔ l' = l ∧ l.Finite := by
  cases l with
  | float x =>
    simp only [checkFinite, Sql.Literal.Finite]
    split
    · rename_i h
      simp [h, eq_comm]
    · rename_i h
      simp [h]
  | _ => simp [checkFinite, Sql.Literal.Finite, eq_comm]

theorem Codec.mapM_checkFinite_eq_ok_iff {ls ls' : List Literal} :
    ls.mapM checkFinite = .ok ls' ↔ ls' = ls ∧ ∀ l ∈ ls, l.Finite := by
  induction ls generalizing ls' with
  | nil => simp [pure, Except.pure, eq_comm]
  | cons l ls ih =>
    rw [List.mapM_cons]
    cases hl : checkFinite l with
    | error err =>
      have hf : ¬ l.Finite := fun h => by simp [checkFinite_eq_ok_iff.2 ⟨rfl, h⟩] at hl
      simp [bind, Except.bind, hf]
    | ok l' =>
      obtain ⟨rfl, hf⟩ := checkFinite_eq_ok_iff.1 hl
      cases hls : ls.mapM checkFinite with
      | error err =>
        have hn : ¬ ∀ l ∈ ls, l.Finite := fun h => by simp [ih.2 ⟨rfl, h⟩] at hls
        simp [bind, Except.bind, hn]
      | ok ls'' =>
        obtain ⟨rfl, hfs⟩ := ih.1 hls
        simp only [bind, Except.bind, pure, Except.pure, Except.ok.injEq, List.forall_mem_cons]
        exact ⟨fun h => ⟨h.symm, hf, hfs⟩, fun h => h.1.symm⟩

theorem Codec.guarded_lower_eq_ok_iff {codec : Codec} {v : Value} {l : Literal} :
    codec.guarded.lower v = .ok l ↔ codec.lower v = .ok l ∧ l.Finite := by
  simp only [Codec.guarded]
  cases codec.lower v with
  | error err => simp [bind, Except.bind]
  | ok l' =>
    simp only [bind, Except.bind, checkFinite_eq_ok_iff, Except.ok.injEq]
    exact ⟨fun ⟨h, hf⟩ => ⟨h.symm, h ▸ hf⟩, fun ⟨h, hf⟩ => ⟨h.symm, h ▸ hf⟩⟩

theorem Codec.guarded_lowerAll_eq_ok_iff {codec : Codec} {vs : List Value} {ls : List Literal} :
    codec.guarded.lowerAll vs = .ok ls ↔ codec.lowerAll vs = .ok ls ∧ ∀ l ∈ ls, l.Finite := by
  simp only [Codec.guarded]
  cases codec.lowerAll vs with
  | error err => simp [bind, Except.bind]
  | ok ls' =>
    simp only [bind, Except.bind, mapM_checkFinite_eq_ok_iff, Except.ok.injEq]
    exact ⟨fun ⟨h, hf⟩ => ⟨h.symm, h ▸ hf⟩, fun ⟨h, hf⟩ => ⟨h.symm, h ▸ hf⟩⟩

/-- The literals that a codec gives are such as are wanted in comparisons and in lists. Of null by
itself nothing is wanted. -/
structure Codec.Gives (codec : Codec) (compared listed : Literal → Prop) : Prop where
  lower {v : Value} {l : Literal} (hn : v ≠ .null) (h : codec.lower v = .ok l) :
    compared l ∧ listed l
  lowerAll {vs : List Value} {ls : List Literal} (h : codec.lowerAll vs = .ok ls) :
    ∀ l ∈ ls, listed l

theorem Codec.gives_guarded (codec : Codec) :
    codec.guarded.Gives Literal.Finite Literal.Finite where
  lower _ h :=
    have hl := (guarded_lower_eq_ok_iff.1 h).2
    ⟨hl, hl⟩
  lowerAll h := (guarded_lowerAll_eq_ok_iff.1 h).2

/-- A bare null takes the form that is kept for it. -/
theorem Clause.ne_null_of_normalized {c : Clause} {v : Value} (h : c.normalized = .value v) :
    v ≠ .null := by
  rintro rfl
  cases c with
  | value w => cases w <;> cases h
  | _ => cases h

namespace Compile

theorem lower_guarded_ok {codec : Codec} {v : Value} {l : Literal} :
    lower codec.guarded v = .ok l ↔ codec.lower v = .ok l ∧ l.Finite := by
  rw [← Codec.guarded_lower_eq_ok_iff, lower, mapError_eq_ok_iff]

theorem lowerAll_guarded_ok {codec : Codec} {vs : List Value} {ls : List Literal} :
    lowerAll codec.guarded vs = .ok ls ↔ codec.lowerAll vs = .ok ls ∧ ∀ l ∈ ls, l.Finite := by
  rw [← Codec.guarded_lowerAll_eq_ok_iff, lowerAll, mapError_eq_ok_iff]

/-! Shapes of predicates -/

/-- A predicate on one column, with such literals as are wanted in comparisons and in lists. -/
inductive Shaped (compared listed : Literal → Prop) (column : Expr) : Expr → Prop
  | isNull (negated : Bool) : Shaped compared listed column (.isNull column negated)
  | compare (op : Comparison) {l : Literal} (h : compared l) :
    Shaped compared listed column (.compare op column (.literal l))
  | member {ls : List Literal} (h : ∀ l ∈ ls, listed l) :
    Shaped compared listed column (membership column ls)
  | never : Shaped compared listed column .never

section

variable {codec : Codec} {compared listed : Literal → Prop} (hc : codec.Gives compared listed)
  {site : Site} {column : Expr} {p : Expr} {v : Value} {vs : List Value} {clause : Clause}

include hc

theorem shaped_of_membership
    (h : (do return membership column (← lowerAll codec vs)) = Except.ok p) :
    Shaped compared listed column p := by
  obtain ⟨ls, hl, he⟩ := bind_eq_ok_iff.1 h
  cases he
  exact .member (hc.lowerAll (mapError_eq_ok_iff.1 hl))

theorem shaped_of_comparison {op : Comparison} (hn : v ≠ .null)
    (h : (do return Expr.compare op column (.literal (← lower codec v))) = Except.ok p) :
    Shaped compared listed column p := by
  obtain ⟨l, hl, he⟩ := bind_eq_ok_iff.1 h
  cases he
  exact .compare op (hc.lower hn (mapError_eq_ok_iff.1 hl)).1

omit hc in
theorem shaped_of_compareNull {op : Operator} (h : compareNull site column op = .ok p) :
    Shaped compared listed column p := by
  cases op <;> cases h <;> exact .isNull _

theorem shaped_of_compareValue {op : Operator}
    (h : compareValue codec site column op v = .ok p) : Shaped compared listed column p := by
  unfold compareValue at h
  split at h
  · exact shaped_of_compareNull h
  · exact shaped_of_membership hc h
  · rename_i hn _ _
    obtain ⟨l, hl, he⟩ := bind_eq_ok_iff.1 h
    cases he
    refine .member (List.forall_mem_singleton.2 ?_)
    exact (hc.lower hn (mapError_eq_ok_iff.1 hl)).2
  · cases h
  · rename_i hn _ _
    exact shaped_of_comparison hc hn h

theorem shaped_of_matchAnyKey (h : matchAnyKey codec column vs = .ok p) :
    Shaped compared listed column p := by
  unfold matchAnyKey at h
  split at h
  · cases h
    exact .never
  · exact shaped_of_membership hc h

theorem shaped_of_matchKey (h : matchKey codec column v = .ok p) :
    Shaped compared listed column p := by
  unfold matchKey at h
  split at h
  · cases h
    exact .isNull _
  · exact shaped_of_matchAnyKey hc h
  · rename_i hn _
    split at h
    · cases h
      exact .never
    · exact shaped_of_comparison hc hn h

theorem shaped_of_excludeKey (h : excludeKey codec site column v = .ok p) :
    Shaped compared listed column p := by
  unfold excludeKey at h
  split at h
  · cases h
    exact .isNull _
  · rename_i hn
    split at h
    · cases h
    · refine shaped_of_comparison hc ?_ h
      rintro rfl
      exact hn rfl

omit hc in
/-- What holds of a predicate holds of it where it is asked for. -/
theorem forall_of_some {P : Expr → Prop} {x : Except CompileError Expr}
    (hx : ∀ q, x = .ok q → P q) (h : (do return some (← x)) = Except.ok (some p)) : P p := by
  obtain ⟨q, hq, he⟩ := bind_eq_ok_iff.1 h
  cases he
  exact hx _ hq

theorem shaped_of_plainPredicate (h : plainPredicate codec site column clause = .ok (some p)) :
    Shaped compared listed column p := by
  unfold plainPredicate at h
  split at h
  · cases h
  · cases h
    exact .isNull _
  · cases h
    exact .never
  · obtain ⟨ls, hl, he⟩ := bind_eq_ok_iff.1 h
    cases he
    exact .member (hc.lowerAll (mapError_eq_ok_iff.1 hl))
  · rename_i hv
    obtain ⟨l, hl, he⟩ := bind_eq_ok_iff.1 h
    cases he
    exact .compare _ (hc.lower (Clause.ne_null_of_normalized hv) (mapError_eq_ok_iff.1 hl)).1
  · exact forall_of_some (fun _ => shaped_of_compareValue hc) h
  · cases h
  · cases h
  · cases h

theorem shaped_of_keyPredicate (h : keyPredicate codec site column clause = .ok (some p)) :
    Shaped compared listed column p := by
  unfold keyPredicate at h
  split at h
  · cases h
  · cases h
  · cases h
    exact .isNull _
  · exact forall_of_some (fun _ => shaped_of_matchKey hc) h
  · exact forall_of_some (fun _ => shaped_of_matchKey hc) h
  · exact forall_of_some (fun _ => shaped_of_matchKey hc) h
  · exact forall_of_some (fun _ => shaped_of_matchKey hc) h
  · exact forall_of_some (fun _ => shaped_of_matchAnyKey hc) h
  · exact forall_of_some (fun _ => shaped_of_excludeKey hc) h
  · cases h
  · cases h

end

/-! Flat predicates -/

/-- A predicate on one column, with literals that are finite. -/
inductive Flat (column : Expr) : Expr → Prop
  | isNull (negated : Bool) : Flat column (.isNull column negated)
  | compare (op : Comparison) {l : Literal} (h : l.Finite) :
    Flat column (.compare op column (.literal l))
  | member {ls : List Literal} (h : ∀ l ∈ ls, l.Finite) :
    Flat column (.inList column (ls.map .literal))
  /-- No row meets this. -/
  | never : Flat column (.compare .eq (.literal (.int 1)) (.literal (.int 0)))

theorem Shaped.flat {column p : Expr} (h : Shaped Literal.Finite Literal.Finite column p) :
    Flat column p := by
  cases h with
  | isNull negated => exact .isNull negated
  | compare op h => exact .compare op h
  | member h => exact .member h
  | never => exact .never

end Compile

/-- A join where one column equals another. -/
inductive Sql.Join.OnColumns : Sql.Join → Prop
  | intro (name : String) (schema : Option String) (a parent key own primary : String) :
    OnColumns ⟨⟨name, schema, some a⟩,
      .compare .eq (.column (some parent) key) (.column (some own) primary)⟩

namespace Compile

/-! Parts of plans -/

/-- What the fields of a plan add, in the order of their visits. -/
def Plan.parts {α : Type} : Plan α → List Part
  | .done => []
  | .field part rest => part :: rest.parts
  | .join part _ _ below rest => part :: (below.parts ++ rest.parts)

theorem Plan.parts_place (p : Plan Unit) (al : Aliases) : (p.place al).1.parts = p.parts := by
  induction p generalizing al with
  | done => rfl
  | field part rest ih => simp only [place, parts, ih]
  | join part related l below rest ihb ihr => simp only [place, parts, ihb, ihr]

/-- The parts of a placed plan, each with the alias of the table that its column is of. -/
def Plan.located : Plan String → String → List (Part × String)
  | .done, _ => []
  | .field part rest, asName => (part, asName) :: rest.located asName
  | .join part _ l below rest, asName =>
    (part, asName) :: (below.located l ++ rest.located asName)

theorem Plan.map_fst_located (p : Plan String) (asName : String) :
    (p.located asName).map (·.1) = p.parts := by
  induction p generalizing asName with
  | done => rfl
  | field part rest ih => rw [located, List.map_cons, ih, parts]
  | join part related l below rest ihb ihr =>
    rw [located, List.map_cons, List.map_append, ihb, ihr, parts]

theorem Plan.predicates_eq (p : Plan String) (asName : String) :
    p.predicates asName = (p.located asName).flatMap fun x => x.1.predicates x.2 := by
  induction p generalizing asName with
  | done => rfl
  | field part rest ih => rw [predicates, located, List.flatMap_cons, ih]
  | join part related l below rest ihb ihr =>
    rw [predicates, located, List.flatMap_cons, List.flatMap_append, ihb, ihr]

theorem Plan.orderTerms_eq (p : Plan String) (asName : String) :
    p.orderTerms asName = (p.located asName).flatMap fun x => x.1.orderTerms x.2 := by
  induction p generalizing asName with
  | done => rfl
  | field part rest ih => rw [orderTerms, located, List.flatMap_cons, ih]
  | join part related l below rest ihb ihr =>
    rw [orderTerms, located, List.flatMap_cons, List.flatMap_append, ihb, ihr]

/-- Tables are joined on two columns. -/
theorem Plan.onColumns_of_mem_joins (p : Plan String) (asName : String) :
    ∀ j ∈ p.joins asName, j.OnColumns := by
  induction p generalizing asName with
  | done => simp [joins]
  | field part rest ih => exact ih asName
  | join part related l below rest ihb ihr =>
    refine List.forall_mem_cons.2 ⟨.intro _ _ _ _ _ _ _, ?_⟩
    exact List.forall_mem_append.2 ⟨ihb l, ihr asName⟩

/-- A plan sorts by columns. -/
theorem Plan.exists_column_of_mem_orderTerms (p : Plan String) (asName : String) :
    ∀ t ∈ p.orderTerms asName, ∃ a c, t.expr = .column (some a) c := by
  intro t ht
  rw [orderTerms_eq] at ht
  obtain ⟨⟨part, a⟩, -, ht⟩ := List.mem_flatMap.1 ht
  obtain ⟨d, -, rfl⟩ := List.mem_map.1 ht
  exact ⟨a, part.column, rfl⟩

def Part.IsFlat (p : Part) : Prop := ∀ e ∈ p.predicate, Flat (.column none p.column) e

theorem shaped_of_planField {schema : Schema} {codec : Codec} {compared listed : Literal → Prop}
    (hc : codec.Gives compared listed) {e : Entity} {field : String} {clause : Clause}
    {order : Option SortClause} {part : Part} {related : Option Entity}
    (h : planField schema codec e field clause order = .ok (part, related)) :
    ∀ q ∈ part.predicate, Shaped compared listed (.column none part.column) q := by
  have hf := fieldPlan_planField schema codec e field clause order
  rw [h] at hf
  cases hf with
  | plain _ hr hp ho =>
    rintro q rfl
    exact shaped_of_plainPredicate hc hp
  | key _ hr hp hg =>
    rintro q rfl
    exact shaped_of_keyPredicate hc hp
  | related _ hr hp hg ht =>
    rintro q rfl
    exact shaped_of_keyPredicate hc hp

theorem isFlat_of_planField {schema : Schema} {codec : Codec} {e : Entity} {field : String}
    {clause : Clause} {order : Option SortClause} {part : Part} {related : Option Entity}
    (h : planField schema codec.guarded e field clause order = .ok (part, related)) :
    part.IsFlat := fun q hq => (shaped_of_planField codec.gives_guarded h q hq).flat

/-- What holds of all that fields add by themselves holds of the parts of a plan. -/
theorem Planned.forall_parts {schema : Schema} {codec : Codec} {P : Part → Prop}
    (hP : ∀ {e : Entity} {n : Named} {part : Part} {related : Option Entity},
      planField schema codec e n.field n.clause n.order = .ok (part, related) → P part)
    {e : Entity} {ns : List Named} {p : Plan Unit} (h : Planned schema codec e ns p) :
    ∀ part ∈ p.parts, P part := by
  induction h with
  | done => simp [Plan.parts]
  | field hf hr ih => exact List.forall_mem_cons.2 ⟨hP hf, ih⟩
  | join hf hb hr ihb ih =>
    exact List.forall_mem_cons.2 ⟨hP hf, List.forall_mem_append.2 ⟨ihb, ih⟩⟩

/-- The predicates of a plan are flat if the codec is kept from giving numbers that are not
finite. -/
theorem Planned.isFlat {schema : Schema} {codec : Codec} {e : Entity} {ns : List Named}
    {p : Plan Unit} (h : Planned schema codec.guarded e ns p) : ∀ q ∈ p.parts, q.IsFlat :=
  h.forall_parts isFlat_of_planField

theorem Planned.isFlat_place {schema : Schema} {codec : Codec} {e : Entity} {ns : List Named}
    {p : Plan Unit} (h : Planned schema codec.guarded e ns p) (al : Aliases) :
    ∀ q ∈ (p.place al).1.parts, q.IsFlat := by
  rw [Plan.parts_place]
  exact h.isFlat

/-- The predicates of a plan are those of its parts. -/
theorem Plan.exists_part_of_mem_predicates {p : Plan String} {asName : String} {e : Expr}
    (h : e ∈ p.predicates asName) :
    ∃ x ∈ p.located asName, x.1 ∈ p.parts ∧ ∃ q ∈ x.1.predicate, e = q.qualify x.2 := by
  rw [predicates_eq] at h
  obtain ⟨⟨part, l⟩, hm, he⟩ := List.mem_flatMap.1 h
  obtain ⟨q, hpart, rfl⟩ := List.mem_map.1 he
  have hparts : part ∈ p.parts := by
    rw [← p.map_fst_located asName]
    exact List.mem_map_of_mem hm
  exact ⟨(part, l), hm, hparts, q, by simpa using hpart, rfl⟩

/-- What the predicates of a plan say, part by part. -/
theorem Plan.exists_flat_of_mem_predicates {p : Plan String} (hp : ∀ q ∈ p.parts, q.IsFlat)
    {asName : String} {e : Expr} (h : e ∈ p.predicates asName) :
    ∃ x ∈ p.located asName, ∃ q, Flat (.column none x.1.column) q ∧ e = q.qualify x.2 := by
  obtain ⟨x, hm, hpart, q, hq, rfl⟩ := exists_part_of_mem_predicates h
  exact ⟨x, hm, q, hp x.1 hpart q hq, rfl⟩

end Compile

end EntityQuery
