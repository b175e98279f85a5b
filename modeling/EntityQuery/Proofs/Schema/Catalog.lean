import EntityQuery.Proofs.Acceptance.WellTyped
import EntityQuery.Proofs.Staff
import Mathlib.Data.List.Nodup

/-!
Catalogs made of entities, registered in turn. There is one exactly if the names differ and every
foreign key references one of them, in whatever order the entities come, and it finds each entity by
its name. A filter on one of its entities never leads out of the catalog, however deep it goes.
-/

namespace EntityQuery

open EntityQuery.Compile

theorem Closed.perm {es es' : List Entity} (hc : Closed es) (h : es.Perm es') : Closed es' := by
  intro e he c hm t ht
  exact (h.map _).mem_iff.1 (hc e (h.mem_iff.2 he) c hm t ht)

namespace Catalog

/-! Registration -/

theorem Draft.ext_entities {d d' : Draft} (h : d.entities = d'.entities) : d = d' := by
  obtain ⟨es, hes⟩ := d
  obtain ⟨es', hes'⟩ := d'
  cases h
  rfl

theorem ext_entities {c c' : Catalog} (h : c.entities = c'.entities) : c = c' := by
  obtain ⟨es, hes, hcl⟩ := c
  obtain ⟨es', hes', hcl'⟩ := c'
  cases h
  rfl

theorem Draft.register_eq_ok_iff {d d' : Draft} {e : Entity} :
    d.register e = .ok d' ↔
      e.name ∉ d.entities.map (·.name) ∧ d'.entities = d.entities ++ [e] := by
  unfold register
  split
  · rename_i h
    simp [h]
  · rename_i h
    rw [Except.ok.injEq]
    exact ⟨fun hd => ⟨h, hd ▸ rfl⟩, fun hd => ext_entities hd.2.symm⟩

/-- Entities are registered if neither their names nor those before them repeat. -/
theorem Draft.foldlM_register_eq_ok_iff {es : List Entity} {d d' : Draft} :
    es.foldlM register d = .ok d' ↔
      ((d.entities ++ es).map (·.name)).Nodup ∧ d'.entities = d.entities ++ es := by
  induction es generalizing d with
  | nil =>
    rw [List.append_nil, List.foldlM_nil]
    simp only [pure, Except.pure, Except.ok.injEq]
    exact ⟨fun hd => ⟨d.nodup, hd ▸ rfl⟩, fun hd => ext_entities hd.2.symm⟩
  | cons e es ih =>
    rw [List.foldlM_cons, bind_eq_ok_iff]
    constructor
    · rintro ⟨d₁, hr, hes⟩
      obtain ⟨-, h₁⟩ := register_eq_ok_iff.1 hr
      rwa [ih, h₁, ← List.append_cons] at hes
    · rintro ⟨hn, hd⟩
      rw [List.append_cons] at hn hd
      have hfresh : e.name ∉ d.entities.map (·.name) := by
        rw [List.map_append, List.map_append, List.append_assoc] at hn
        exact fun hm => (List.nodup_append.1 hn).2.2 _ hm _ (by simp) rfl
      exact ⟨⟨d.entities ++ [e], nodup_append_name hfresh⟩, register_eq_ok_iff.2 ⟨hfresh, rfl⟩,
        ih.2 ⟨hn, hd⟩⟩

theorem danglingReferences_eq_nil_iff {es : List Entity} :
    danglingReferences es = [] ↔ Closed es := by
  refine ⟨closed_of_danglingReferences, fun h => ?_⟩
  simp only [danglingReferences, List.flatMap_eq_nil_iff, List.filterMap_eq_nil_iff]
  intro e he c hc
  unfold danglingColumn?
  split
  · rename_i t ht
    exact if_pos (h e he c hc t ht)
  · rfl

theorem Draft.build_eq_ok_iff {d : Draft} {c : Catalog} :
    d.build = .ok c ↔ Closed d.entities ∧ c.entities = d.entities := by
  rw [← danglingReferences_eq_nil_iff]
  unfold build
  split
  · rename_i h
    rw [Except.ok.injEq]
    exact ⟨fun hc => ⟨h, hc ▸ rfl⟩, fun hc => Catalog.ext_entities hc.2.symm⟩
  · rename_i h
    simp [h]

theorem ofEntities_eq_ok_iff {es : List Entity} {c : Catalog} :
    ofEntities es = .ok c ↔ (es.map (·.name)).Nodup ∧ Closed es ∧ c.entities = es := by
  rw [ofEntities, bind_eq_ok_iff]
  constructor
  · rintro ⟨d, hd, hc⟩
    obtain ⟨hn, he⟩ := Draft.foldlM_register_eq_ok_iff.1 hd
    rw [Draft.build_eq_ok_iff, he] at hc
    exact ⟨hn, hc⟩
  · rintro ⟨hn, hclosed, hc⟩
    exact ⟨⟨es, hn⟩, Draft.foldlM_register_eq_ok_iff.2 ⟨hn, rfl⟩,
      Draft.build_eq_ok_iff.2 ⟨hclosed, hc⟩⟩

theorem exists_ofEntities_iff {es : List Entity} :
    (∃ c, ofEntities es = .ok c) ↔ (es.map (·.name)).Nodup ∧ Closed es := by
  constructor
  · rintro ⟨c, hc⟩
    obtain ⟨hn, hclosed, -⟩ := ofEntities_eq_ok_iff.1 hc
    exact ⟨hn, hclosed⟩
  · rintro ⟨hn, hclosed⟩
    exact ⟨⟨es, hn, hclosed⟩, ofEntities_eq_ok_iff.2 ⟨hn, hclosed, rfl⟩⟩

/-! Look-up -/

theorem entity?_eq_some_iff {c : Catalog} {name : String} {e : Entity} :
    c.entity? name = some e ↔ e ∈ c.entities ∧ e.name = name := by
  constructor
  · intro h
    exact ⟨List.mem_of_find?_eq_some h, by simpa using List.find?_some h⟩
  · rintro ⟨he, rfl⟩
    have hsome : (c.entity? e.name).isSome = true := List.find?_isSome.2 ⟨e, he, by simp⟩
    obtain ⟨e', h'⟩ := Option.isSome_iff_exists.1 hsome
    have hname : e'.name = e.name := by simpa using List.find?_some h'
    rw [h', List.inj_on_of_nodup_map c.nodup (List.mem_of_find?_eq_some h') he hname]

theorem entity?_eq_none_iff {c : Catalog} {name : String} :
    c.entity? name = none ↔ name ∉ c.entities.map (·.name) := by
  simp [entity?]

/-! Order of registration -/

theorem exists_ofEntities_of_perm {es es' : List Entity} (h : es.Perm es')
    (hc : ∃ c, ofEntities es = .ok c) : ∃ c, ofEntities es' = .ok c := by
  rw [exists_ofEntities_iff] at *
  exact ⟨(h.map _).nodup_iff.1 hc.1, hc.2.perm h⟩

theorem entity?_congr {c c' : Catalog} (h : c.entities.Perm c'.entities) :
    c.entity? = c'.entity? := by
  funext name
  ext e
  rw [entity?_eq_some_iff, entity?_eq_some_iff, h.mem_iff]

/-! What filters reach -/

theorem isSome_entity?_of_references {c : Catalog} {e : Entity} (he : e ∈ c.entities)
    {col : Column} (hc : col ∈ e.columns) {target : String} (hr : col.references = some target) :
    (c.entity? target).isSome = true := by
  obtain ⟨e', he', hn⟩ := List.mem_map.1 (c.closed e he col hc target hr)
  rw [entity?_eq_some_iff.2 ⟨he', hn⟩]
  rfl

theorem mem_entities_of_hop? {c : Catalog} {e related : Entity} {n : Named} {key : String}
    (h : n.hop? c.entity? e = some (key, related)) : related ∈ c.entities := by
  simp only [Named.hop?_eq, Option.bind_eq_bind, Option.bind_eq_some_iff] at h
  obtain ⟨col, -, related', ⟨target, -, ht⟩, hif⟩ := h
  split at hif
  · cases hif
    exact (entity?_eq_some_iff.1 ht).1
  · cases hif

/-- The invariant of the descent: the entity at hand is one of the catalog, and so is every entity
that one of its keys references. -/
theorem ne_unknownEntity_of_fault {c : Catalog} {codec : Codec} {e : Entity} {s : Scope}
    {err : CompileError} (he : e ∈ c.entities) (h : Fault c.entity? codec e s err)
    (name : String) : err ≠ .unknownEntity name := by
  induction h with
  | field hn hf =>
    cases hf with
    | unknownTarget hc hr hg ht =>
      have hsome := isSome_entity?_of_references he hc.1 hr
      rw [ht] at hsome
      cases hsome
    | _ => simp
  | related hn hh _ ih => exact ih (mem_entities_of_hop? hh)

theorem toQuery_ne_unknownEntity {c : Catalog} {codec : Codec} {spec : Spec}
    {fallbackLimit : UInt64} {entity : String} (he : entity ∈ c.entities.map (·.name))
    (name : String) :
    spec.toQuery c.entity? codec fallbackLimit entity ≠ .error (.unknownEntity name) := by
  intro h
  cases Spec.refusal_of_toQuery h with
  | entity _ _ hnone => exact entity?_eq_none_iff.1 hnone he
  | scope _ _ hsome hf =>
    exact ne_unknownEntity_of_fault (entity?_eq_some_iff.1 hsome).1 hf name rfl

/-- A list of entities makes a catalog exactly if their names differ and their foreign keys
reference entities among them. The catalog finds just these entities, the order in which they came
does not matter, and no spec on one of them ever asks for an entity that is not there. -/
theorem closed_ofEntities (es : List Entity) :
    ((∃ c, ofEntities es = .ok c) ↔ (es.map (·.name)).Nodup ∧ Closed es) ∧
    (∀ es', es.Perm es' →
      ((∃ c, ofEntities es = .ok c) ↔ ∃ c, ofEntities es' = .ok c) ∧
      ∀ c c', ofEntities es = .ok c → ofEntities es' = .ok c' → c.entity? = c'.entity?) ∧
    ∀ c, ofEntities es = .ok c →
      (∀ name e, c.entity? name = some e ↔ e ∈ es ∧ e.name = name) ∧
      (∀ name, c.entity? name = none ↔ name ∉ es.map (·.name)) ∧
      ∀ (codec : Codec) (spec : Spec) (fallbackLimit : UInt64), ∀ entity ∈ es.map (·.name),
        ∀ name, spec.toQuery c.entity? codec fallbackLimit entity ≠
          .error (.unknownEntity name) := by
  refine ⟨exists_ofEntities_iff, fun es' hp => ⟨?_, fun c c' hc hc' => ?_⟩, fun c hc => ?_⟩
  · exact ⟨exists_ofEntities_of_perm hp, exists_ofEntities_of_perm hp.symm⟩
  · obtain ⟨-, -, rfl⟩ := ofEntities_eq_ok_iff.1 hc
    obtain ⟨-, -, rfl⟩ := ofEntities_eq_ok_iff.1 hc'
    exact entity?_congr hp
  · obtain ⟨-, -, rfl⟩ := ofEntities_eq_ok_iff.1 hc
    refine ⟨fun name e => entity?_eq_some_iff, fun name => entity?_eq_none_iff, ?_⟩
    exact fun codec spec fallbackLimit entity he name => toQuery_ne_unknownEntity he name

end Catalog

namespace Staff

/-- A team, led by a person. -/
def team : Entity where
  name := "Team"
  table := "teams"
  others := [⟨"lead", "lead_id", some "Person"⟩]
  nodup := by decide

/-- People reference themselves, and teams people, who come after them. -/
def catalog : Catalog := ⟨[team, person], by decide, closed_of_danglingReferences rfl⟩

theorem closed_catalog :
    Catalog.ofEntities [team, person] = .ok catalog ∧
    Catalog.ofEntities [person, team] =
      .ok ⟨[person, team], by decide, closed_of_danglingReferences rfl⟩ ∧
    (∃ c, Catalog.ofEntities [person, team] = .ok c ∧ c.entity? = catalog.entity?) ∧
    ∀ (codec : Codec) (name : String),
      spec.toQuery catalog.entity? codec 10 "Person" ≠ .error (.unknownEntity name) := by
  have hc : Catalog.ofEntities [team, person] = .ok catalog := rfl
  have hc' : Catalog.ofEntities [person, team] =
      .ok ⟨[person, team], by decide, closed_of_danglingReferences rfl⟩ := rfl
  obtain ⟨-, hperm, hfound⟩ := Catalog.closed_ofEntities [team, person]
  obtain ⟨-, hsame⟩ := hperm [person, team] (.swap _ _ _)
  obtain ⟨-, -, hreach⟩ := hfound catalog hc
  exact ⟨hc, hc', ⟨_, hc', (hsame _ _ hc hc').symm⟩,
    fun codec => hreach codec spec 10 "Person" (by decide)⟩

end Staff

end EntityQuery
