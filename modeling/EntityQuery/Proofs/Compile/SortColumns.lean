import EntityQuery.Proofs.Compile.Ordering

/-!
The columns that a query sorts by. Where no two fields of an entity share a column, different leaves
of an ordering are different columns: either their paths end at different tables, or they are
different fields of one table. The primary key comes last whatever comes before it, so it is there
twice if the ordering names `id`, and nothing else ever is.
-/

namespace EntityQuery

open EntityQuery.Sql (Expr OrderTerm Query)

/-- No two fields of an entity share a column. -/
def Entity.OneFieldPerColumn (e : Entity) : Prop := (e.columns.map (·.column)).Nodup

instance (e : Entity) : Decidable e.OneFieldPerColumn := inferInstanceAs (Decidable (List.Nodup _))

theorem Entity.OneFieldPerColumn.field_eq {e : Entity} (he : e.OneFieldPerColumn)
    {c c' : Column} (hc : c ∈ e.columns) (hc' : c' ∈ e.columns) (h : c.column = c'.column) :
    c.field = c'.field := by
  rw [List.inj_on_of_nodup_map he hc hc' h]

theorem Entity.idColumn_mem_columns (e : Entity) : e.idColumn ∈ e.columns := List.mem_cons_self

theorem Entity.eq_idColumn_of_mem {e : Entity} {c : Column} (hc : c ∈ e.columns)
    (h : c.field = idField) : c = e.idColumn :=
  List.inj_on_of_nodup_map e.nodup_fields hc e.idColumn_mem_columns h

/-! Leaves are different -/

/-- All fields on the way to what is sorted by, its own among them. -/
def SortLeaf.fields (l : SortLeaf) : List String := l.path ++ [l.field]

theorem mem_leaves_iff {o : SortOrder} {field : String} {d : Direction} :
    ⟨[], field, d⟩ ∈ o.leaves ↔ (field, .direction d) ∈ o.entries := by
  rw [SortOrder.leaves_eq_flatMap, List.mem_flatMap]
  constructor
  · rintro ⟨⟨f, d' | o⟩, he, hl⟩
    · cases List.mem_singleton.1 hl
      exact he
    · obtain ⟨l, -, hl⟩ := List.mem_map.1 hl
      cases hl
  · intro he
    exact ⟨_, he, List.mem_singleton.2 rfl⟩

namespace Compile

theorem Named.map_fields_leaves (n : Named) :
    n.leaves.map SortLeaf.fields = (direction? n.order).toList.map (fun _ => [n.field]) ++
      (n.below.order.leaves.map SortLeaf.fields).map (n.field :: ·) := by
  rw [leaves_eq, List.map_append, List.map_map, List.map_map, List.map_map]
  rfl

theorem Named.head?_fields {n : Named} {fields : List String}
    (h : fields ∈ n.leaves.map SortLeaf.fields) : fields.head? = some n.field := by
  rw [map_fields_leaves, List.mem_append, List.mem_map, List.mem_map] at h
  obtain ⟨d, -, rfl⟩ | ⟨l, -, rfl⟩ := h
  · rfl
  · rfl

/-- A field's own direction ends at the field, and what is below goes on from it. -/
theorem Named.nodup_fields {n : Named} (h : (n.below.order.leaves.map SortLeaf.fields).Nodup) :
    (n.leaves.map SortLeaf.fields).Nodup := by
  have hbelow := h.map (f := (n.field :: ·)) fun _ _ he => (List.cons.inj he).2
  rw [map_fields_leaves]
  cases direction? n.order with
  | none => exact hbelow
  | some d =>
    refine List.nodup_cons.2 ⟨fun hm => ?_, hbelow⟩
    obtain ⟨fields, hl, he⟩ := List.mem_map.1 hm
    obtain ⟨l, -, rfl⟩ := List.mem_map.1 hl
    simp [SortLeaf.fields] at he

theorem Scope.nodup_fields {s : Scope} (hs : s.Distinct) :
    (s.order.leaves.map SortLeaf.fields).Nodup := by
  induction hs with
  | @intro s hf ho hb ih =>
    rw [← flatMap_leaves_named, List.map_flatMap]
    exact nodup_flatMap_named hf ho (fun n hn => Named.nodup_fields (ih n hn))
      fun n fields => Named.head?_fields

/-! Terms are different -/

theorem Reaches.exists_schema {schema : Schema} {e : Entity} {s : Scope} {hop : Hop}
    (h : Reaches schema e s hop) : ∃ name, schema name = some hop.target := by
  induction h with
  | last h =>
    obtain ⟨⟨c, target, -, -, -, -, ht⟩, -⟩ := h
    exact ⟨target, ht⟩
  | under h hr ih => exact ih

theorem column_inj {a a' c c' : String} (h : Expr.column (some a) c = .column (some a') c') :
    a = a' ∧ c = c' := by
  simpa using h

section

variable {e : Entity} {hops : List Hop} {aliasAt : List String → String} {l l' : SortLeaf}
  {t t' : OrderTerm} {leaves : List SortLeaf} {terms : List OrderTerm}
  (ha : (aliasAt [] :: hops.map fun hop => aliasAt hop.path).Nodup) (he : e.OneFieldPerColumn)

include ha he

theorem LeafTerm.fields_eq (hhops : ∀ hop ∈ hops, hop.target.OneFieldPerColumn)
    (h : LeafTerm e hops aliasAt l t) (h' : LeafTerm e hops aliasAt l' t')
    (ht : t.expr = t'.expr) : l.fields = l'.fields := by
  obtain ⟨hsource, hjoined⟩ := List.nodup_cons.1 ha
  cases h with
  | own d hc =>
    cases h' with
    | own d' hc' => rw [SortLeaf.fields, he.field_eq hc hc' (column_inj ht).2]; rfl
    | joined d' hh' hc' =>
      exact (hsource (List.mem_map.2 ⟨_, hh', (column_inj ht).1.symm⟩)).elim
  | joined d hh hc =>
    cases h' with
    | own d' hc' => exact (hsource (List.mem_map.2 ⟨_, hh, (column_inj ht).1⟩)).elim
    | joined d' hh' hc' =>
      obtain ⟨halias, hcolumn⟩ := column_inj ht
      obtain rfl := List.inj_on_of_nodup_map hjoined hh hh' halias
      rw [SortLeaf.fields, (hhops _ hh).field_eq hc hc' hcolumn]
      rfl

/-- The primary key at the alias of the source is what `id` of the entity itself is sorted by. -/
theorem LeafTerm.expr_eq_primaryKey_iff (h : LeafTerm e hops aliasAt l t) :
    t.expr = .column (some (aliasAt [])) e.primaryKey ↔ ∃ d, l = ⟨[], idField, d⟩ := by
  obtain ⟨hsource, -⟩ := List.nodup_cons.1 ha
  cases h with
  | @own c d hc =>
    constructor
    · intro ht
      have hfield := he.field_eq hc e.idColumn_mem_columns (column_inj ht).2
      exact ⟨d, by rw [hfield]; rfl⟩
    · rintro ⟨d', hl⟩
      rw [Entity.eq_idColumn_of_mem hc (congrArg SortLeaf.field hl)]
      rfl
  | @joined hop c d hh hc =>
    have hne : aliasAt hop.path ≠ aliasAt [] := fun heq => hsource (List.mem_map.2 ⟨hop, hh, heq⟩)
    constructor
    · exact fun ht => (hne (column_inj ht).1).elim
    · rintro ⟨d', hl⟩
      exact (hne (congrArg (fun l => aliasAt l.path) hl)).elim

/-- Terms of different leaves are different columns. -/
theorem nodup_of_leafTerms (hhops : ∀ hop ∈ hops, hop.target.OneFieldPerColumn)
    (hleaves : (leaves.map SortLeaf.fields).Nodup)
    (h : List.Forall₂ (LeafTerm e hops aliasAt) leaves terms) : (terms.map (·.expr)).Nodup :=
  nodup_map_of_forall₂ h hleaves fun _ _ _ _ hl hl' => hl.fields_eq ha he hhops hl'

theorem mem_of_leafTerms_iff (h : List.Forall₂ (LeafTerm e hops aliasAt) leaves terms) :
    Expr.column (some (aliasAt [])) e.primaryKey ∈ terms.map (·.expr) ↔
      ∃ d, ⟨[], idField, d⟩ ∈ leaves := by
  rw [List.mem_map]
  constructor
  · rintro ⟨t, ht, hexpr⟩
    obtain ⟨l, hl, hlt⟩ := exists_of_forall₂ h ht
    obtain ⟨d, rfl⟩ := (hlt.expr_eq_primaryKey_iff ha he).1 hexpr
    exact ⟨d, hl⟩
  · rintro ⟨d, hl⟩
    obtain ⟨t, ht, hlt⟩ := exists_of_forall₂ h.flip hl
    exact ⟨t, ht, (LeafTerm.expr_eq_primaryKey_iff ha he hlt).2 ⟨d, rfl⟩⟩

end

end Compile

open Compile

/-- Where no two fields of an entity share a column, a compiled query sorts by different columns,
all that its ordering asks for and last the primary key; unless the ordering asks for `id` itself,
for then the primary key is among the others too. -/
theorem Spec.nodup_order_toQuery {spec : Spec} {schema : Schema} {codec : Codec}
    {fallbackLimit : UInt64} {entity : String} {q : Query}
    (hs : Scope.Distinct ⟨spec.filter, spec.order⟩)
    (hschema : ∀ name e, schema name = some e → e.OneFieldPerColumn)
    (h : spec.toQuery schema codec fallbackLimit entity = .ok q) :
    ∃ (e : Entity) (asName : String) (terms : List OrderTerm),
      schema entity = some e ∧ q.source = some ⟨e.table, e.schema, some asName⟩ ∧
      q.order = terms ++ [⟨.column (some asName) e.primaryKey, .asc⟩] ∧
      (terms.map (·.expr)).Nodup ∧
      (Expr.column (some asName) e.primaryKey ∈ terms.map (·.expr) ↔
        ∃ d, spec.order.get? idField = some (.direction d)) ∧
      ((q.order.map (·.expr)).Nodup ↔ ∀ d, spec.order.get? idField ≠ some (.direction d)) := by
  obtain ⟨e, p, limit, offset, -, -, he, hp, rfl⟩ := Spec.exists_plan_of_toQuery h
  have ha := Plan.nodup_aliasAt (distinct_of_plan hs hp) e
  have hhops : ∀ hop ∈ p.hops, hop.target.OneFieldPerColumn := by
    intro hop hm
    rw [hops_of_plan _ hp] at hm
    obtain ⟨name, ht⟩ := ((mem_hops_iff hs).1 hm).exists_schema
    exact hschema name _ ht
  have hterms := leafTerms_of_plan hs hp
  have hnodup := nodup_of_leafTerms ha (hschema _ _ he) hhops (Scope.nodup_fields hs) hterms
  have hmem : Expr.column (some (sourceName e)) e.primaryKey ∈
      ((p.placed e).orderTerms (sourceName e)).map (·.expr) ↔
        ∃ d, spec.order.get? idField = some (.direction d) := by
    have hid := mem_of_leafTerms_iff ha (hschema _ _ he) hterms
    rw [Plan.aliasAt_nil] at hid
    rw [hid]
    refine exists_congr fun d => mem_leaves_iff.trans ?_
    cases hs with
    | intro _ ho _ => exact ⟨FieldMap.get?_of_mem ho, FieldMap.mem_of_get?⟩
  refine ⟨e, sourceName e, (p.placed e).orderTerms (sourceName e), he, by rw [source_addPage]; rfl,
    by rw [order_addPage]; rfl, hnodup, hmem, ?_⟩
  rw [order_addPage, ← not_exists, ← hmem]
  have hlast : ((p.placed e).query e (sourceName e)).order.map (·.expr) =
      (((p.placed e).orderTerms (sourceName e)).map (·.expr)).concat
        (Expr.column (some (sourceName e)) e.primaryKey) := by
    rw [Plan.query, List.map_append, List.concat_eq_append]
    rfl
  rw [hlast, List.nodup_concat]
  exact ⟨fun h => h.1, fun h => ⟨h, hnodup⟩⟩

namespace Staff

theorem oneFieldPerColumn_schema (name : String) (e : Entity) (h : schema name = some e) :
    e.OneFieldPerColumn := by
  unfold schema at h
  split at h
  · cases h
    decide
  · cases h

theorem nodup_order_query :
    Scope.Distinct ⟨spec.filter, spec.order⟩ ∧
    (∀ name e, schema name = some e → e.OneFieldPerColumn) ∧
    spec.toQuery schema .plain 10 "Person" = .ok query ∧ (query.order.map (·.expr)).Nodup := by
  obtain ⟨e, asName, terms, -, -, -, -, -, hnodup⟩ :=
    Spec.nodup_order_toQuery distinct_spec oneFieldPerColumn_schema toQuery_spec
  refine ⟨distinct_spec, oneFieldPerColumn_schema, toQuery_spec, hnodup.2 fun d hd => ?_⟩
  cases hd

/-- The last people first. -/
def lastFirst : Spec where
  order := ⟨[("id", .direction .desc)]⟩

/-- Whoever sorts people by `id` sorts them by their primary key twice. -/
theorem repeated_primaryKey :
    Scope.Distinct ⟨lastFirst.filter, lastFirst.order⟩ ∧
    (∀ name e, schema name = some e → e.OneFieldPerColumn) ∧
    ∃ q, lastFirst.toQuery schema .plain 10 "Person" = .ok q ∧
      q.order = [⟨.column (some "p0") "id", .desc⟩, ⟨.column (some "p0") "id", .asc⟩] ∧
      ¬ (q.order.map (·.expr)).Nodup := by
  have hdistinct : Scope.Distinct ⟨lastFirst.filter, lastFirst.order⟩ :=
    .intro (by decide) (by decide) (List.forall_mem_singleton.2 .empty)
  obtain ⟨q, hq, horder⟩ : ∃ q, lastFirst.toQuery schema .plain 10 "Person" = .ok q ∧
      q.order = [⟨.column (some "p0") "id", .desc⟩, ⟨.column (some "p0") "id", .asc⟩] :=
    ⟨_, rfl, rfl⟩
  refine ⟨hdistinct, oneFieldPerColumn_schema, q, hq, horder, ?_⟩
  simp [horder]

end Staff

end EntityQuery
