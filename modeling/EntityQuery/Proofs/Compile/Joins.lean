import EntityQuery.Proofs.Compile.Run

/-!
The joins of a query. A scope follows a foreign key wherever the field has a nested filter or a
nested ordering, and the query joins one table for each key that is followed, on the alias of the
table that the key stands in.
-/

namespace EntityQuery

open EntityQuery.Sql (Join Query)

namespace Compile

/-! Hops -/

/-- A foreign key that is followed: the fields on the way to the row that it points at, its column,
and the entity that it references. -/
structure Hop where
  path : List String
  key : String
  target : Entity

/-- The same hop, seen from the entity whose field leads to where it starts. -/
def Hop.under (field : String) (h : Hop) : Hop := { h with path := field :: h.path }

/-- The join for a hop, if the table at the end of each path has this alias. -/
def Hop.join (aliasAt : List String → String) (h : Hop) : Join :=
  ⟨⟨h.target.table, h.target.schema, some (aliasAt h.path)⟩,
    .compare .eq (.column (some (aliasAt h.path.dropLast)) h.key)
      (.column (some (aliasAt h.path)) h.target.primaryKey)⟩

/-- The hop that a field takes, then those from where it leads. -/
def Named.hops (schema : Schema) (e : Entity) (n : Named) (onward : Entity → List Hop) : List Hop :=
  match n.hop? schema e with
  | some (key, related) => ⟨[n.field], key, related⟩ :: (onward related).map (Hop.under n.field)
  | none => []

/-- The hops of a scope, field by field, each before those from where it leads. -/
def Scope.hops (schema : Schema) (e : Entity) (s : Scope) : List Hop :=
  s.named.attach.flatMap fun n =>
    n.1.hops schema e fun related => hops schema related n.1.below
termination_by s
decreasing_by exact Scope.sizeOf_below_lt n.2

theorem Scope.hops_eq (schema : Schema) (e : Entity) (s : Scope) :
    s.hops schema e = s.named.flatMap fun n =>
      n.hops schema e fun related => n.below.hops schema related := by
  have h := List.flatMap_map Subtype.val
    (fun n : Named => n.hops schema e fun related => n.below.hops schema related) s.named.attach
  rw [List.attach_map_subtype_val] at h
  rw [hops, h]

/-! Hops of plans -/

namespace Plan

variable {α : Type}

/-- The fields of a plan, without those below. -/
def fields : Plan α → List String
  | .done => []
  | .field part rest => part.field :: rest.fields
  | .join part _ _ _ rest => part.field :: rest.fields

def hops : Plan α → List Hop
  | .done => []
  | .field _ rest => rest.hops
  | .join part related _ below rest =>
    ⟨[part.field], part.column, related⟩ :: (below.hops.map (Hop.under part.field) ++ rest.hops)

/-- No field stands twice in a plan, or in a plan below. -/
def Distinct : Plan α → Prop
  | .done => True
  | .field part rest => part.field ∉ rest.fields ∧ rest.Distinct
  | .join part _ _ below rest => part.field ∉ rest.fields ∧ below.Distinct ∧ rest.Distinct

/-- The alias of the table at the end of a path. -/
def aliasAt : Plan String → String → List String → String
  | _, asName, [] => asName
  | .done, asName, _ :: _ => asName
  | .field _ rest, asName, f :: path => rest.aliasAt asName (f :: path)
  | .join part _ l below rest, asName, f :: path =>
    if f = part.field then below.aliasAt l path else rest.aliasAt asName (f :: path)

theorem aliasAt_nil (p : Plan String) (asName : String) : p.aliasAt asName [] = asName := by
  cases p <;> rfl

theorem aliasAt_field (part : Part) (rest : Plan String) (asName : String) :
    (Plan.field part rest).aliasAt asName = rest.aliasAt asName := by
  funext path
  cases path with
  | nil => rw [aliasAt_nil, aliasAt_nil]
  | cons f path => rw [aliasAt]

/-- A path is never empty and starts with a field of the plan. -/
theorem path_of_mem_hops {p : Plan α} {h : Hop} (hm : h ∈ p.hops) :
    ∃ f path, h.path = f :: path ∧ f ∈ p.fields := by
  induction p with
  | done => cases hm
  | field part rest ih =>
    obtain ⟨f, path, hp, hf⟩ := ih hm
    exact ⟨f, path, hp, List.mem_cons_of_mem _ hf⟩
  | join part related l below rest ihb ihr =>
    rcases List.mem_cons.1 hm with rfl | hm
    · exact ⟨part.field, [], rfl, List.mem_cons_self⟩
    · rcases List.mem_append.1 hm with hm | hm
      · obtain ⟨h', -, rfl⟩ := List.mem_map.1 hm
        exact ⟨part.field, h'.path, rfl, List.mem_cons_self⟩
      · obtain ⟨f, path, hp, hf⟩ := ihr hm
        exact ⟨f, path, hp, List.mem_cons_of_mem _ hf⟩

section

variable {part : Part} {related : Entity} {l asName : String} {below rest : Plan String} {h : Hop}

/-- Behind the field of a join, aliases are those of the plan below. -/
theorem join_under (hne : h.path ≠ []) :
    (h.under part.field).join ((Plan.join part related l below rest).aliasAt asName) =
      h.join (below.aliasAt l) := by
  have hd : (part.field :: h.path).dropLast = part.field :: h.path.dropLast :=
    List.dropLast_cons_of_ne_nil hne
  simp only [Hop.join, Hop.under, hd, aliasAt, if_true]

/-- Elsewhere they are those of the rest. -/
theorem join_beside {f : String} {path : List String} (hp : h.path = f :: path)
    (hf : f ≠ part.field) :
    h.join ((Plan.join part related l below rest).aliasAt asName) =
      h.join (rest.aliasAt asName) := by
  have hname (path : List String) :
      (Plan.join part related l below rest).aliasAt asName (f :: path) =
        rest.aliasAt asName (f :: path) := by
    rw [aliasAt, if_neg hf]
  have hparent : (Plan.join part related l below rest).aliasAt asName h.path.dropLast =
      rest.aliasAt asName h.path.dropLast := by
    rw [hp]
    cases path with
    | nil => rw [List.dropLast_singleton, aliasAt_nil, aliasAt_nil]
    | cons g path => exact hname _
  rw [Hop.join, Hop.join, hparent, hp, hname]

end

/-- A placed plan joins its hops in their order, each on the alias of its parent. -/
theorem joins_place {p : Plan Unit} (hp : p.Distinct) (al : Aliases) (asName : String) :
    (p.place al).1.joins asName = p.hops.map (Hop.join ((p.place al).1.aliasAt asName)) := by
  induction p generalizing al asName with
  | done => rfl
  | field part rest ih =>
    simp only [place, joins, hops, aliasAt_field]
    exact ih hp.2 al asName
  | join part related l below rest ihb ihr =>
    obtain ⟨hnot, hbelow, hrest⟩ := hp
    simp only [place, joins, hops, List.map_cons, List.map_append, List.map_map]
    rw [ihb hbelow, ihr hrest]
    congr 1
    · simp [Hop.join, relatedJoin, aliasAt, aliasAt_nil]
    · congr 1
      -- both plans have their own aliases, and a path knows by its head whose to take
      · refine List.map_congr_left fun h hm => ?_
        obtain ⟨f, path, hpath, -⟩ := path_of_mem_hops hm
        exact (join_under (by simp [hpath])).symm
      · refine List.map_congr_left fun h hm => ?_
        obtain ⟨f, path, hpath, hf⟩ := path_of_mem_hops hm
        exact (join_beside hpath fun he => hnot (he ▸ hf)).symm

end Plan

/-! Plans of scopes -/

section

variable {schema : Schema} {codec : Codec} {e : Entity}

theorem field_of_planField {field : String} {clause : Clause} {order : Option SortClause}
    {part : Part} {related : Option Entity}
    (h : planField schema codec e field clause order = .ok (part, related)) :
    part.field = field := by
  have hf := fieldPlan_planField schema codec e field clause order
  rw [h] at hf
  cases hf <;> rfl

theorem Planned.fields {ns : List Named} {p : Plan Unit} (h : Planned schema codec e ns p) :
    p.fields = ns.map Named.field := by
  induction h with
  | done => rfl
  | field hf hr ih => rw [Plan.fields, List.map_cons, field_of_planField hf, ih]
  | join hf hb hr ihb ih => rw [Plan.fields, List.map_cons, field_of_planField hf, ih]

/-- The plan of fields that are named once, here and below, has each field once. -/
theorem Planned.distinct {ns : List Named} {p : Plan Unit} (h : Planned schema codec e ns p)
    (hns : (ns.map Named.field).Nodup) (hbelow : ∀ n ∈ ns, n.below.Distinct) : p.Distinct := by
  induction h with
  | done => trivial
  | field hf hr ih =>
    obtain ⟨hnot, hns⟩ := List.nodup_cons.1 hns
    obtain ⟨-, hbelow⟩ := List.forall_mem_cons.1 hbelow
    rw [← field_of_planField hf, ← hr.fields] at hnot
    exact ⟨hnot, ih hns hbelow⟩
  | join hf hb hr ihb ih =>
    obtain ⟨hnot, hns⟩ := List.nodup_cons.1 hns
    obtain ⟨⟨hfilter, horder, hn⟩, hbelow⟩ := List.forall_mem_cons.1 hbelow
    rw [← field_of_planField hf, ← hr.fields] at hnot
    exact ⟨hnot, ihb (Scope.nodup_map_field_named hfilter horder) hn, ih hns hbelow⟩

theorem distinct_of_plan {s : Scope} (hs : s.Distinct) {p : Plan Unit}
    (h : plan schema codec e s = .ok p) : p.Distinct := by
  obtain ⟨hf, ho, hb⟩ := hs
  exact (planned_of_plan s h).distinct (Scope.nodup_map_field_named hf ho) hb

theorem Planned.hops {ns : List Named} {p : Plan Unit} (h : Planned schema codec e ns p) :
    p.hops = ns.flatMap fun n => n.hops schema e fun related => n.below.hops schema related := by
  induction h with
  | done => rfl
  | field hf hr ih =>
    rw [Plan.hops, List.flatMap_cons, ih, Named.hops, hop?_of_planField hf]
    rfl
  | join hf hb hr ihb ih =>
    rw [← Scope.hops_eq] at ihb
    rw [Plan.hops, List.flatMap_cons, ih, Named.hops, hop?_of_planField hf, ihb,
      field_of_planField hf]
    rfl

/-- A plan takes the hops of its scope. -/
theorem hops_of_plan (s : Scope) {p : Plan Unit} (h : plan schema codec e s = .ok p) :
    p.hops = s.hops schema e := by
  rw [Scope.hops_eq]
  exact (planned_of_plan s h).hops

end

end Compile

end EntityQuery
