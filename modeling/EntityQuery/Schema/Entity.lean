/-!
Entities: the table that an entity is stored in and the columns that its fields are stored in. Every
entity has the field `id`, stored in the primary key, and no field twice.
-/

namespace EntityQuery

/-- A column that references an entity is a foreign key: it holds that entity's primary key. -/
structure Column where
  field : String
  column : String
  references : Option String := none
deriving DecidableEq

inductive CatalogError where
  | duplicateEntity (name : String)
  | duplicateField (entity field : String)
  | unknownTarget (entity field target : String)
deriving DecidableEq

def CatalogError.message : CatalogError → String
  | .duplicateEntity name => "Duplicate entity: " ++ name
  | .duplicateField entity field =>
    "Duplicate field '" ++ field ++ "' on entity '" ++ entity ++ "'"
  | .unknownTarget entity field target =>
    "Field '" ++ field ++ "' on entity '" ++ entity ++ "' references unknown entity '" ++ target
      ++ "'"

/-- The field that every entity has. -/
def idField : String := "id"

structure Entity where
  name : String
  table : String
  schema : Option String := none
  primaryKey : String := idField
  /-- The columns besides the one of `id`, in the order in which they were added. -/
  others : List Column := []
  nodup : (idField :: others.map (·.field)).Nodup := by simp
deriving DecidableEq

namespace Entity

def idColumn (e : Entity) : Column := { field := idField, column := e.primaryKey }

def columns (e : Entity) : List Column := e.idColumn :: e.others

def fields (e : Entity) : List String := e.columns.map (·.field)

theorem nodup_fields (e : Entity) : e.fields.Nodup := e.nodup

def column? (e : Entity) (field : String) : Option Column :=
  e.columns.find? (·.field == field)

/-- The field `id` moves along. -/
def withPrimaryKey (e : Entity) (column : String) : Entity := { e with primaryKey := column }

def withSchema (e : Entity) (schema : String) : Entity := { e with schema := some schema }

theorem nodup_append_field {e : Entity} {c : Column} (h : c.field ∉ e.fields) :
    (idField :: (e.others ++ [c]).map (·.field)).Nodup := by
  have hf : idField :: (e.others ++ [c]).map (·.field) = e.fields ++ [c.field] := by
    simp [fields, columns, idColumn]
  rw [hf, List.nodup_append]
  refine ⟨e.nodup_fields, by simp, fun x hx y hy => ?_⟩
  rw [List.mem_singleton.1 hy]
  exact fun heq => h (heq ▸ hx)

def addColumn (e : Entity) (c : Column) : Except CatalogError Entity :=
  if h : c.field ∈ e.fields then .error (.duplicateField e.name c.field)
  else .ok { e with others := e.others ++ [c], nodup := nodup_append_field h }

def addColumns (e : Entity) (cs : List Column) : Except CatalogError Entity :=
  cs.foldlM addColumn e

theorem column?_eq_some {e : Entity} {field : String} {c : Column}
    (h : e.column? field = some c) : c ∈ e.columns ∧ c.field = field :=
  ⟨List.mem_of_find?_eq_some h, by simpa using List.find?_some h⟩

theorem column?_eq_none_iff {e : Entity} {field : String} :
    e.column? field = none ↔ field ∉ e.fields := by
  simp [column?, fields]

end Entity

end EntityQuery
