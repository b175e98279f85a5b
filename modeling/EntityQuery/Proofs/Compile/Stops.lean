import EntityQuery.Proofs.Compile.Joins
import EntityQuery.Proofs.Compile.Shape

/-!
The paths of a plan. Each table of a query is at the end of a path of foreign keys, and what a field
adds is taken from the table at the end of the path to it. So nothing of a placed plan but its hops
and what stands at their ends depends on the order of its fields, up to aliases.
-/

namespace EntityQuery.Compile

/-- What a field adds, and the foreign keys on the way to the row that it is a field of. -/
structure Stop where
  path : List String
  part : Part

/-- The same stop, seen from the entity whose field leads to where its path starts. -/
def Stop.under (field : String) (s : Stop) : Stop := { s with path := field :: s.path }

namespace Plan

variable {α : Type}

/-- What the fields of a plan add, in the order of their visits. -/
def stops : Plan α → List Stop
  | .done => []
  | .field part rest => ⟨[], part⟩ :: rest.stops
  | .join part _ _ below rest =>
    ⟨[], part⟩ :: (below.stops.map (Stop.under part.field) ++ rest.stops)

/-- The paths to the tables of a plan, that of the entity itself among them. -/
def paths (p : Plan α) : List (List String) := [] :: p.hops.map Hop.path

section

variable {part : Part} {related : Entity} {l : α} {below rest : Plan α} {path : List String}

theorem cons_mem_paths_join (h : path ∈ below.paths) :
    part.field :: path ∈ (Plan.join part related l below rest).paths := by
  rcases List.mem_cons.1 h with rfl | h
  · exact List.mem_cons_of_mem _ List.mem_cons_self
  · obtain ⟨hop, hm, rfl⟩ := List.mem_map.1 h
    refine List.mem_cons_of_mem _ (List.mem_map.2 ⟨hop.under part.field, ?_, rfl⟩)
    exact List.mem_cons_of_mem _ (List.mem_append_left _ (List.mem_map_of_mem hm))

theorem mem_paths_join (h : path ∈ rest.paths) :
    path ∈ (Plan.join part related l below rest).paths := by
  rcases List.mem_cons.1 h with rfl | h
  · exact List.mem_cons_self
  · obtain ⟨hop, hm, rfl⟩ := List.mem_map.1 h
    refine List.mem_cons_of_mem _ (List.mem_map_of_mem ?_)
    exact List.mem_cons_of_mem _ (List.mem_append_right _ hm)

end

/-- A hop starts where a path ends. -/
theorem dropLast_mem_paths {p : Plan α} {h : Hop} (hm : h ∈ p.hops) :
    h.path.dropLast ∈ p.paths := by
  induction p generalizing h with
  | done => cases hm
  | field part rest ih => exact ih hm
  | join part related l below rest ihb ihr =>
    rcases List.mem_cons.1 hm with rfl | hm
    · exact List.mem_cons_self
    · rcases List.mem_append.1 hm with hm | hm
      · obtain ⟨h, hbelow, rfl⟩ := List.mem_map.1 hm
        obtain ⟨f, path, hp, -⟩ := path_of_mem_hops hbelow
        have hd : (h.under part.field).path.dropLast = part.field :: h.path.dropLast :=
          List.dropLast_cons_of_ne_nil (by simp [hp])
        rw [hd]
        exact cons_mem_paths_join (ihb hbelow)
      · exact mem_paths_join (ihr hm)

theorem path_mem_paths {p : Plan α} {s : Stop} (hm : s ∈ p.stops) : s.path ∈ p.paths := by
  induction p generalizing s with
  | done => cases hm
  | field part rest ih =>
    rcases List.mem_cons.1 hm with rfl | hm
    · exact List.mem_cons_self
    · exact ih hm
  | join part related l below rest ihb ihr =>
    rcases List.mem_cons.1 hm with rfl | hm
    · exact List.mem_cons_self
    · rcases List.mem_append.1 hm with hm | hm
      · obtain ⟨s, hbelow, rfl⟩ := List.mem_map.1 hm
        exact cons_mem_paths_join (ihb hbelow)
      · exact mem_paths_join (ihr hm)

theorem map_part_stops (p : Plan α) : p.stops.map Stop.part = p.parts := by
  induction p with
  | done => rfl
  | field part rest ih => rw [stops, List.map_cons, ih, parts]
  | join part related l below rest ihb ihr =>
    rw [stops, List.map_cons, List.map_append, List.map_map, ihr, parts, ← ihb]
    rfl

/-- The path to a stop is empty or starts with a field of the plan. -/
theorem path_of_mem_stops {p : Plan α} {s : Stop} (hm : s ∈ p.stops) :
    s.path = [] ∨ ∃ f path, s.path = f :: path ∧ f ∈ p.fields := by
  rcases List.mem_cons.1 (path_mem_paths hm) with h | h
  · exact .inl h
  · obtain ⟨hop, hm, hp⟩ := List.mem_map.1 h
    obtain ⟨f, path, hpath, hf⟩ := path_of_mem_hops hm
    exact .inr ⟨f, path, by rw [← hp, hpath], hf⟩

/-- The parts of a placed plan are its stops, each at the alias of its path. -/
theorem located_place {p : Plan Unit} (hp : p.Distinct) (al : Aliases) (asName : String) :
    (p.place al).1.located asName =
      p.stops.map fun s => (s.part, (p.place al).1.aliasAt asName s.path) := by
  induction p generalizing al asName with
  | done => rfl
  | field part rest ih =>
    simp only [place, located, stops, List.map_cons, aliasAt_field, aliasAt_nil]
    rw [ih hp.2]
  | join part related l below rest ihb ihr =>
    obtain ⟨hnot, hbelow, hrest⟩ := hp
    simp only [place, located, stops, List.map_cons, List.map_append, List.map_map, aliasAt_nil]
    rw [ihb hbelow, ihr hrest]
    congr 2
    -- below the join its own alias counts, and elsewhere paths start with another field
    · refine List.map_congr_left fun s _ => ?_
      simp [Stop.under, aliasAt]
    · refine List.map_congr_left fun s hm => ?_
      rcases path_of_mem_stops hm with hpath | ⟨f, path, hpath, hf⟩
      · rw [hpath, aliasAt_nil, aliasAt_nil]
      · have hne : f ≠ part.field := fun he => hnot (he ▸ hf)
        rw [hpath, aliasAt, if_neg hne]

theorem predicates_placed {p : Plan Unit} (hp : p.Distinct) (e : Entity) :
    (p.placed e).predicates (sourceName e) =
      p.stops.flatMap fun s => s.part.predicates ((p.placed e).aliasAt (sourceName e) s.path) := by
  have hlocated : (p.placed e).located (sourceName e) = _ := located_place hp _ _
  rw [predicates_eq, hlocated, List.flatMap_map]
  rfl

end Plan

end EntityQuery.Compile
