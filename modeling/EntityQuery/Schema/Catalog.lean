import EntityQuery.Schema.Entity

/-!
Catalogs of entities. A catalog has no two entities of one name, and every foreign key in it
references one of its entities, so that whatever a filter reaches through foreign keys is there.
-/

namespace EntityQuery

/-- How entities are found by their names. -/
abbrev Schema := String → Option Entity

/-- Every foreign key references one of the entities. -/
def Closed (es : List Entity) : Prop :=
  ∀ e ∈ es, ∀ c ∈ e.columns, ∀ t, c.references = some t → t ∈ es.map (·.name)

/-- The error of a column, if what it references is not one of the names. -/
def danglingColumn? (names : List String) (e : Entity) (c : Column) : Option CatalogError :=
  match c.references with
  | some t => if t ∈ names then none else some (.unknownTarget e.name c.field t)
  | none => none

def danglingReferences (es : List Entity) : List CatalogError :=
  es.flatMap fun e => e.columns.filterMap (danglingColumn? (es.map (·.name)) e)

theorem closed_of_danglingReferences {es : List Entity} (h : danglingReferences es = []) :
    Closed es := by
  intro e he c hc t ht
  simp only [danglingReferences, List.flatMap_eq_nil_iff, List.filterMap_eq_nil_iff] at h
  have hc := h e he c hc
  simp only [danglingColumn?, ht] at hc
  split at hc
  · assumption
  · simp at hc

/-- Entities on the way into a catalog: their names differ already. -/
structure Catalog.Draft where
  entities : List Entity := []
  nodup : (entities.map (·.name)).Nodup := by simp

structure Catalog where
  entities : List Entity
  nodup : (entities.map (·.name)).Nodup
  closed : Closed entities

namespace Catalog

namespace Draft

def empty : Draft := {}

theorem nodup_append_name {d : Draft} {e : Entity} (h : e.name ∉ d.entities.map (·.name)) :
    ((d.entities ++ [e]).map (·.name)).Nodup := by
  rw [List.map_append, List.nodup_append]
  refine ⟨d.nodup, by simp, fun x hx y hy => ?_⟩
  rintro rfl
  rw [List.mem_singleton.1 hy] at hx
  exact h hx

def register (d : Draft) (e : Entity) : Except CatalogError Draft :=
  if h : e.name ∈ d.entities.map (·.name) then .error (.duplicateEntity e.name)
  else .ok ⟨d.entities ++ [e], nodup_append_name h⟩

def build (d : Draft) : Except CatalogError Catalog :=
  match h : danglingReferences d.entities with
  | [] => .ok ⟨d.entities, d.nodup, closed_of_danglingReferences h⟩
  | e :: _ => .error e

end Draft

/-- The catalog of the entities, registered in turn. -/
def ofEntities (es : List Entity) : Except CatalogError Catalog :=
  es.foldlM Draft.register .empty >>= Draft.build

def entity? (c : Catalog) : Schema := fun name => c.entities.find? (·.name == name)

def size (c : Catalog) : Nat := c.entities.length

def isEmpty (c : Catalog) : Bool := c.entities.isEmpty

end Catalog

end EntityQuery
