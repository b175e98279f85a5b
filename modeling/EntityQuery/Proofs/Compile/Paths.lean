import EntityQuery.Proofs.Compile.Aliases
import EntityQuery.Proofs.Compile.Joins
import EntityQuery.Proofs.Schema.Entity
import EntityQuery.Proofs.Staff
import Mathlib.Data.List.Nodup

/-!
Joins and paths. In a scope that names each field once, the hops are just the paths whose fields are
foreign keys with a nested filter or a nested ordering, each path once; so a query has one join for
each of these paths.
-/

namespace EntityQuery

open EntityQuery.Sql (Query)

namespace Compile

/-! Paths by look-up -/

/-- A field leads on to an entity: it is a foreign key that references the entity, and its clause is
a nested filter or its order a nested ordering. -/
def Leads (schema : Schema) (e : Entity) (s : Scope) (field key : String) (related : Entity) :
    Prop :=
  (∃ c target, c ∈ e.columns ∧ c.field = field ∧ c.column = key ∧ c.references = some target ∧
    schema target = some related) ∧
  ((∃ f, s.filter.get? field = some (.nested f)) ∨ ∃ o, s.order.get? field = some (.nested o))

/-- The hop at the end of a path each of whose fields leads on. -/
inductive Reaches (schema : Schema) : Entity → Scope → Hop → Prop
  | last {e related : Entity} {s : Scope} {field key : String}
    (h : Leads schema e s field key related) : Reaches schema e s ⟨[field], key, related⟩
  | under {e related : Entity} {s : Scope} {field key : String} {hop : Hop}
    (h : Leads schema e s field key related)
    (hr : Reaches schema related (s.asks field).below hop) :
    Reaches schema e s (hop.under field)

section

variable {schema : Schema} {e : Entity} {s : Scope}

theorem goesOn_asks {field : String} :
    (s.asks field).GoesOn ↔
      (∃ f, s.filter.get? field = some (.nested f)) ∨
        ∃ o, s.order.get? field = some (.nested o) := by
  refine or_congr ?_ Iff.rfl
  cases hc : s.filter.get? field <;> simp [Scope.asks, hc]

theorem hop?_asks {field key : String} {related : Entity} :
    (s.asks field).hop? schema e = some (key, related) ↔ Leads schema e s field key related := by
  rw [Leads, ← goesOn_asks, ← goesOn_iff]
  simp only [Named.hop?_eq, Option.bind_eq_bind, Option.bind_eq_some_iff]
  constructor
  · rintro ⟨c, hc, related', ⟨target, hr, ht⟩, hif⟩
    obtain ⟨hm, hf⟩ := Entity.column?_eq_some_iff.1 hc
    split at hif
    · rename_i hg
      cases hif
      exact ⟨⟨c, target, hm, hf, rfl, hr, ht⟩, hg⟩
    · cases hif
  · rintro ⟨⟨c, target, hm, hf, rfl, hr, ht⟩, hg⟩
    exact ⟨c, Entity.column?_eq_some_iff.2 ⟨hm, hf⟩, related, ⟨target, hr, ht⟩, if_pos hg⟩

/-- A field that leads on is one that the scope names. -/
theorem Leads.asks_mem_named (hf : s.filter.Distinct) (ho : s.order.Distinct)
    {field key : String} {related : Entity} (h : Leads schema e s field key related) :
    s.asks field ∈ s.named := by
  refine Scope.asks_mem_named hf ho ?_
  rcases h.2 with ⟨f, hf⟩ | ⟨o, ho⟩
  · exact .inr (List.mem_map_of_mem (FieldMap.mem_of_get? hf))
  · exact .inl (List.mem_map_of_mem (FieldMap.mem_of_get? ho))

theorem mem_named_hops {n : Named} {onward : Entity → List Hop} {hop : Hop} :
    hop ∈ n.hops schema e onward ↔ ∃ key related, n.hop? schema e = some (key, related) ∧
      (hop = ⟨[n.field], key, related⟩ ∨ ∃ h ∈ onward related, hop = h.under n.field) := by
  rw [Named.hops]
  rcases n.hop? schema e with - | ⟨key, related⟩
  · simp
  · simp [eq_comm]

theorem mem_hops_iff (hs : s.Distinct) {hop : Hop} :
    hop ∈ s.hops schema e ↔ Reaches schema e s hop := by
  induction hs generalizing e hop with
  | @intro s hf ho hb ih =>
    rw [Scope.hops_eq, List.mem_flatMap]
    constructor
    · rintro ⟨n, hn, hm⟩
      obtain ⟨key, related, hh, hcase⟩ := mem_named_hops.1 hm
      have ha := Scope.eq_asks_of_mem_named hf ho hn
      rw [ha, hop?_asks] at hh
      rcases hcase with rfl | ⟨h, hbelow, rfl⟩
      · exact .last hh
      · have hr := (ih n hn).1 hbelow
        rw [ha] at hr
        exact .under hh hr
    · intro hr
      cases hr with
      | last h =>
        refine ⟨_, h.asks_mem_named hf ho, mem_named_hops.2 ?_⟩
        exact ⟨_, _, hop?_asks.2 h, .inl rfl⟩
      | under h hr =>
        have hn := h.asks_mem_named hf ho
        refine ⟨_, hn, mem_named_hops.2 ?_⟩
        exact ⟨_, _, hop?_asks.2 h, .inr ⟨_, (ih _ hn).2 hr, rfl⟩⟩

/-! Paths are different -/

theorem path_ne_nil {hop : Hop} (h : hop ∈ s.hops schema e) : hop.path ≠ [] := by
  rw [Scope.hops_eq, List.mem_flatMap] at h
  obtain ⟨n, -, hm⟩ := h
  obtain ⟨key, related, -, rfl | ⟨h, -, rfl⟩⟩ := mem_named_hops.1 hm
  · exact List.cons_ne_nil _ _
  · exact List.cons_ne_nil _ _

theorem head?_path {n : Named} {onward : Entity → List Hop} {path : List String}
    (h : path ∈ (n.hops schema e onward).map Hop.path) : path.head? = some n.field := by
  obtain ⟨hop, hm, rfl⟩ := List.mem_map.1 h
  obtain ⟨key, related, -, rfl | ⟨h, -, rfl⟩⟩ := mem_named_hops.1 hm
  · rfl
  · rfl

theorem nodup_path_named {n : Named} {onward : Entity → List Hop}
    (hn : ∀ related, ((onward related).map Hop.path).Nodup)
    (hne : ∀ related, ∀ h ∈ onward related, h.path ≠ []) :
    ((n.hops schema e onward).map Hop.path).Nodup := by
  rw [Named.hops]
  rcases n.hop? schema e with - | ⟨key, related⟩
  · exact List.nodup_nil
  · have hmap : ((onward related).map (Hop.under n.field)).map Hop.path =
        ((onward related).map Hop.path).map (n.field :: ·) := by
      rw [List.map_map, List.map_map]
      rfl
    simp only [List.map_cons, hmap]
    refine List.nodup_cons.2 ⟨fun hm => ?_, (hn related).map fun _ _ he => (List.cons.inj he).2⟩
    obtain ⟨path, hp, he⟩ := List.mem_map.1 hm
    obtain ⟨h, hh, rfl⟩ := List.mem_map.1 hp
    exact hne related h hh (List.cons.inj he).2

/-- Paths by way of two fields differ in their heads. -/
theorem Scope.nodup_flatMap_named (hf : s.filter.Distinct) (ho : s.order.Distinct)
    {paths : Named → List (List String)} (hnodup : ∀ n ∈ s.named, (paths n).Nodup)
    (hhead : ∀ n, ∀ path ∈ paths n, path.head? = some n.field) :
    (s.named.flatMap paths).Nodup := by
  have hfields := nodup_map_field_named hf ho
  rw [List.nodup_iff_pairwise_ne, List.pairwise_map] at hfields
  refine List.nodup_flatMap.2 ⟨hnodup, hfields.imp fun {n n'} hne path hp hp' => hne ?_⟩
  have he := (hhead n path hp).symm.trans (hhead n' path hp')
  exact Option.some.inj he

theorem nodup_paths (hs : s.Distinct) : ((s.hops schema e).map Hop.path).Nodup := by
  induction hs generalizing e with
  | @intro s hf ho hb ih =>
    rw [Scope.hops_eq, List.map_flatMap]
    refine Scope.nodup_flatMap_named hf ho (fun n hn => ?_) fun n path => head?_path
    exact nodup_path_named (fun related => ih n hn) fun related h hm => path_ne_nil hm

end

/-- The alias at the end of each path is that of the table which is joined for it. -/
theorem Plan.labels_placed {p : Plan Unit} (hp : p.Distinct) (e : Entity) :
    (p.placed e).labels =
      p.hops.map fun h => (p.placed e).aliasAt (sourceName e) h.path := by
  have hj : (p.placed e).joins (sourceName e) = _ := Plan.joins_place hp _ _
  rw [← Plan.referenceNames_joins _ (sourceName e), hj, List.map_map]
  rfl

/-- No two paths end at the same alias. -/
theorem Plan.nodup_aliasAt {p : Plan Unit} (hp : p.Distinct) (e : Entity) :
    ((p.placed e).aliasAt (sourceName e) [] ::
      p.hops.map fun h => (p.placed e).aliasAt (sourceName e) h.path).Nodup := by
  rw [Plan.aliasAt_nil, ← Plan.labels_placed hp]
  exact p.nodup_labels e

end Compile

open Compile

/-- The joins of a query are one for each path of its spec that leads on, in the order in which the
fields are visited. Each has an alias of its own, that of its path, and is on the key column at the
alias of its parent. -/
theorem Spec.joins_toQuery {spec : Spec} {schema : Schema} {codec : Codec}
    {fallbackLimit : UInt64} {entity : String} {q : Query}
    (hs : Scope.Distinct ⟨spec.filter, spec.order⟩)
    (h : spec.toQuery schema codec fallbackLimit entity = .ok q) :
    ∃ (e : Entity) (hops : List Hop) (aliasAt : List String → String),
      schema entity = some e ∧ hops = Scope.hops schema e ⟨spec.filter, spec.order⟩ ∧
      (∀ hop, hop ∈ hops ↔ Reaches schema e ⟨spec.filter, spec.order⟩ hop) ∧
      (hops.map Hop.path).Nodup ∧ (aliasAt [] :: hops.map fun hop => aliasAt hop.path).Nodup ∧
      q.source = some ⟨e.table, e.schema, some (aliasAt [])⟩ ∧
      q.joins = hops.map (Hop.join aliasAt) := by
  obtain ⟨e, p, limit, offset, -, -, he, hp, rfl⟩ := Spec.exists_plan_of_toQuery h
  have hdistinct := distinct_of_plan hs hp
  refine ⟨e, p.hops, (p.placed e).aliasAt (sourceName e), he, hops_of_plan _ hp, ?_⟩
  rw [Plan.aliasAt_nil, ← Plan.labels_placed hdistinct, source_addPage, joins_addPage]
  refine ⟨fun hop => ?_, ?_, p.nodup_labels e, rfl, Plan.joins_place hdistinct _ _⟩
  · rw [hops_of_plan _ hp]
    exact mem_hops_iff hs
  · rw [hops_of_plan _ hp]
    exact nodup_paths hs

theorem Staff.joins_query :
    Scope.Distinct ⟨spec.filter, spec.order⟩ ∧
    spec.toQuery schema .plain 10 "Person" = .ok query ∧
    ∃ (e : Entity) (hops : List Hop) (aliasAt : List String → String),
      schema "Person" = some e ∧ hops = Scope.hops schema e ⟨spec.filter, spec.order⟩ ∧
      (∀ hop, hop ∈ hops ↔ Reaches schema e ⟨spec.filter, spec.order⟩ hop) ∧
      (hops.map Hop.path).Nodup ∧ (aliasAt [] :: hops.map fun hop => aliasAt hop.path).Nodup ∧
      query.source = some ⟨e.table, e.schema, some (aliasAt [])⟩ ∧
      query.joins = hops.map (Hop.join aliasAt) :=
  ⟨distinct_spec, toQuery_spec, Spec.joins_toQuery distinct_spec toQuery_spec⟩

end EntityQuery
