import EntityQuery.Proofs.Reordering.Renaming
import EntityQuery.Proofs.Staff

/-!
Specs whose filters differ only in the order of their entries. One is compiled exactly if the other
is, to a query that differs in the names of its aliases and in the order of joins and predicates.
-/

namespace EntityQuery

open EntityQuery.Sql (Expr OrderTerm Query)

namespace Compile

section

variable {p p' : Plan Unit} {e : Entity}

/-- The aliases of a plan are those at the ends of its paths. -/
theorem Plan.map_aliasAt_paths (hp : p.Distinct) (e : Entity) :
    p.paths.map ((p.placed e).aliasAt (sourceName e)) = sourceName e :: (p.placed e).labels := by
  rw [paths, List.map_cons, aliasAt_nil, labels_placed hp, List.map_map]
  rfl

theorem Plan.referenceNames_query (hp : p.Distinct) (e : Entity) :
    ((p.placed e).query e (sourceName e)).referenceNames =
      p.paths.map ((p.placed e).aliasAt (sourceName e)) := by
  have hjoined : ((p.placed e).joins (sourceName e)).map (fun j => j.table.referenceName) =
      (p.placed e).labels := Plan.referenceNames_joins _ _
  rw [map_aliasAt_paths hp, ← hjoined, Query.referenceNames, Query.tables, List.map_append,
    List.map_map]
  rfl

/-- Plans that take the same hops and make the same stops give the same query, up to aliases and
the order of joins and predicates, if they sort by the same leaves. -/
theorem Plan.Permuted.exists_renamedBy (h : p.Permuted p') (hp : p.Distinct) (hp' : p'.Distinct)
    (hflat : ∀ q ∈ p.parts, q.IsFlat) (hpaths : (p.hops.map Hop.path).Nodup)
    {leaves : List SortLeaf}
    (hts : List.Forall₂ (LeafTerm e p.hops ((p.placed e).aliasAt (sourceName e))) leaves
      ((p.placed e).orderTerms (sourceName e)))
    (hts' : List.Forall₂ (LeafTerm e p'.hops ((p'.placed e).aliasAt (sourceName e))) leaves
      ((p'.placed e).orderTerms (sourceName e))) :
    ∃ σ, ((p.placed e).query e (sourceName e)).RenamedBy σ
      ((p'.placed e).query e (sourceName e)) := by
  have hnames := p.nodup_labels e
  have hnames' := p'.nodup_labels e
  rw [← map_aliasAt_paths hp] at hnames
  rw [← map_aliasAt_paths hp'] at hnames'
  obtain ⟨σ, hσ, hbij⟩ := exists_renaming hnames hnames' h.paths
  have hsource : σ (sourceName e) = sourceName e := by
    have hnil := hσ [] List.mem_cons_self
    rwa [Plan.aliasAt_nil, Plan.aliasAt_nil] at hnil
  have hfrom : ((p.placed e).query e (sourceName e)).source.map (Sql.Table.rename σ) =
      ((p'.placed e).query e (sourceName e)).source := by
    simp [Plan.query, Sql.Table.rename, hsource]
  have hjoins : (((p.placed e).joins (sourceName e)).map (Sql.Join.rename σ)).Perm
      ((p'.placed e).joins (sourceName e)) := by
    have hj : (p.placed e).joins (sourceName e) = _ := Plan.joins_place hp _ _
    have hj' : (p'.placed e).joins (sourceName e) = _ := Plan.joins_place hp' _ _
    rw [hj, hj']
    exact h.joins hσ
  have hpredicates : (((p.placed e).predicates (sourceName e)).map (Expr.rename σ)).Perm
      ((p'.placed e).predicates (sourceName e)) := by
    rw [Plan.predicates_placed hp, Plan.predicates_placed hp']
    exact h.predicates hflat hσ
  have horder : ((p.placed e).query e (sourceName e)).order.map (OrderTerm.rename σ) =
      ((p'.placed e).query e (sourceName e)).order := by
    rw [Plan.query, Plan.query, List.map_append, rename_leafTerms h hpaths hσ hts hts']
    simp [OrderTerm.rename, Expr.rename, hsource]
  refine ⟨σ, ?_, ?_, Query.perm_tables σ hfrom hjoins, ?_, hfrom, hjoins, hpredicates, horder, rfl⟩
  · rwa [Plan.referenceNames_query hp, Plan.referenceNames_query hp']
  · rintro t ht
    cases ht
    exact hsource
  · simp [Plan.query, Expr.rename, hsource]

/-- A page is no part of what is renamed. -/
theorem renamedBy_addPage {σ : String → String} {q q' : Query} (h : q.RenamedBy σ q')
    (limit : UInt64) (offset : Option UInt64) :
    (addPage q limit offset).RenamedBy σ (addPage q' limit offset) := by
  have hpage : (addPage q limit offset).page = (addPage q' limit offset).page := by
    cases offset <;> simp [addPage, Query.withLimit, Query.withOffset, h.page]
  cases offset <;>
    exact ⟨h.bijective, h.fixed, h.tables, h.select, h.source, h.joins, h.predicates, h.order,
      hpage⟩

end

end Compile

open Compile

section

variable {spec spec' : Spec} {schema : Schema} {codec : Codec} {fallbackLimit : UInt64}
  {entity : String} {q : Query}

/-- A reordered spec is compiled to the same query up to aliases and order. -/
theorem Spec.exists_toQuery_reordered (h : spec.Reordered spec')
    (hs : Scope.Distinct ⟨spec.filter, spec.order⟩)
    (hq : spec.toQuery schema codec fallbackLimit entity = .ok q) :
    ∃ q', spec'.toQuery schema codec fallbackLimit entity = .ok q' ∧ ∃ σ, q.RenamedBy σ q' := by
  obtain ⟨e, p, limit, offset, hl, ho, he, hp, rfl⟩ := Spec.exists_plan_of_toQuery hq
  obtain ⟨p', hp', hperm⟩ := plan_reordered hs h.filter hp
  have hs' : Scope.Distinct ⟨spec'.filter, spec.order⟩ := hs.reordered h.filter
  have hd := distinct_of_plan hs hp
  have hd' := distinct_of_plan hs' hp'
  have hpaths : (p.hops.map Hop.path).Nodup := by
    rw [hops_of_plan _ hp]
    exact nodup_paths hs
  obtain ⟨σ, hσ⟩ := hperm.exists_renamedBy hd hd' (planned_of_plan _ hp).isFlat hpaths
    (leafTerms_of_plan hs hp) (leafTerms_of_plan hs' hp')
  refine ⟨addPage ((p'.placed e).query e (sourceName e)) limit offset, ?_, σ,
    renamedBy_addPage hσ limit offset⟩
  rw [Spec.toQuery_eq, h.order, h.limit, h.offset, hl, ho, he]
  refine bind_eq_ok_iff.2 ⟨limit, rfl, bind_eq_ok_iff.2 ⟨offset, rfl, ?_⟩⟩
  exact bind_eq_ok_iff.2 ⟨p', hp', rfl⟩

end

/-- The order in which the fields of a filter are written does not matter: with any other order,
here and below, a spec is compiled exactly if it was, and to the same query, up to the names of
aliases and the order of joins and predicates. -/
theorem Spec.toQuery_reordered {spec spec' : Spec} (h : spec.Reordered spec')
    (hs : Scope.Distinct ⟨spec.filter, spec.order⟩) (schema : Schema) (codec : Codec)
    (fallbackLimit : UInt64) (entity : String) :
    ((∃ q, spec.toQuery schema codec fallbackLimit entity = .ok q) ↔
      ∃ q', spec'.toQuery schema codec fallbackLimit entity = .ok q') ∧
    ∀ q q', spec.toQuery schema codec fallbackLimit entity = .ok q →
      spec'.toQuery schema codec fallbackLimit entity = .ok q' → ∃ σ, q.RenamedBy σ q' := by
  have hs' : Scope.Distinct ⟨spec'.filter, spec'.order⟩ := by
    rw [h.order]
    exact hs.reordered h.filter
  refine ⟨⟨?_, ?_⟩, fun q q' hq hq' => ?_⟩
  · rintro ⟨q, hq⟩
    obtain ⟨q', hq', -⟩ := exists_toQuery_reordered h hs hq
    exact ⟨q', hq'⟩
  · rintro ⟨q', hq'⟩
    obtain ⟨q, hq, -⟩ := exists_toQuery_reordered h.symm hs' hq'
    exact ⟨q, hq⟩
  · obtain ⟨q'', hq'', hσ⟩ := exists_toQuery_reordered h hs hq
    cases hq'.symm.trans hq''
    exact hσ

namespace Staff

/-- The spec with its filter written in another order, here and below. -/
def specReordered : Spec where
  filter := ⟨[("name", .compare .like (.string "A%")), ("id", .absent),
    ("age", .compare .gt (.int 30)),
    ("mentor", .nested ⟨[("age", .compare .ne .null),
      ("name", .compare .inList (.list [.string "Eve", .string "Zoe"]))]⟩),
    ("manager", .nested ⟨[("name", .value (.string "O'Hara")), ("manager", .nested ⟨[]⟩),
      ("age", .list [.int 50, .int 60])]⟩)]⟩
  order := spec.order
  offset := spec.offset

theorem reordered_spec : spec.Reordered specReordered where
  filter :=
    .trans (.swap _ _ _) (.cons _ (.cons _ (.cons _ (.trans (.swap _ _ [])
      (.nested "mentor" (.swap _ _ []) (.nested "manager" (.cons _ (.swap _ _ [])) .nil))))))
  order := rfl
  limit := rfl
  offset := rfl

theorem toQuery_specReordered :
    spec.Reordered specReordered ∧ Scope.Distinct ⟨spec.filter, spec.order⟩ ∧
    ((∃ q, spec.toQuery schema .plain 10 "Person" = .ok q) ↔
      ∃ q', specReordered.toQuery schema .plain 10 "Person" = .ok q') ∧
    ∀ q q', spec.toQuery schema .plain 10 "Person" = .ok q →
      specReordered.toQuery schema .plain 10 "Person" = .ok q' → ∃ σ, q.RenamedBy σ q' :=
  ⟨reordered_spec, distinct_spec,
    Spec.toQuery_reordered reordered_spec distinct_spec schema .plain 10 "Person"⟩

end Staff

end EntityQuery
