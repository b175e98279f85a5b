import EntityQuery.Compile.Query
import EntityQuery.Text.Blank

/-!
Settings: defaults for compilation and the entities to compile for. From settings a catalog is
built, in which every entity has the field `id` and the columns that its settings list.
-/

namespace EntityQuery

open EntityQuery.Sql (Dialect)

structure QuerySettings where
  dialect : Dialect := .postgres
  defaultLimit : UInt64 := Compile.defaultLimit

structure ColumnSettings where
  field : String
  /-- The storage column, unless it has the name of the field. -/
  column : Option String := none
  references : Option String := none

structure EntitySettings where
  table : String
  schema : Option String := none
  /-- The column of the field `id`, unless it has that name too. -/
  primaryKey : Option String := none
  columns : List ColumnSettings := []

structure Settings where
  query : QuerySettings := {}
  entities : FieldMap EntitySettings := .empty

inductive InvalidSetting where
  | zeroDefaultLimit
  | emptyTableName (entity : String)
deriving DecidableEq

def InvalidSetting.message : InvalidSetting → String
  | .zeroDefaultLimit => "query.default_limit must be greater than zero"
  | .emptyTableName entity => "entity '" ++ entity ++ "' has an empty table name"

inductive SettingsError where
  | fileNotFound (path : String)
  | unreadable
  | malformed
  | invalid (reason : InvalidSetting)
  | catalog (e : CatalogError)
deriving DecidableEq

def SettingsError.message : SettingsError → String
  | .fileNotFound path => "Config file not found: " ++ path
  | .unreadable => "Failed to read config file"
  | .malformed => "Failed to parse config file"
  | .invalid reason => "Invalid configuration: " ++ reason.message
  | .catalog e => "Invalid entity catalog: " ++ e.message

def ColumnSettings.toColumn (c : ColumnSettings) : Column :=
  { field := c.field, column := c.column.getD c.field, references := c.references }

def EntitySettings.toEntity (name : String) (s : EntitySettings) : Except CatalogError Entity :=
  Entity.addColumns
    { name, table := s.table, schema := s.schema, primaryKey := s.primaryKey.getD idField }
    (s.columns.map (·.toColumn))

namespace Settings

/-- The first entity, in their order, whose table has no name. -/
def unnamedTable? (s : Settings) : Option String :=
  (s.entities.entries.find? fun (_, e) => Text.isBlankText e.table).map (·.1)

def validate (s : Settings) : Except SettingsError Settings :=
  if s.query.defaultLimit = 0 then .error (.invalid .zeroDefaultLimit)
  else
    match s.unnamedTable? with
    | some name => .error (.invalid (.emptyTableName name))
    | none => .ok s

/-- The draft of a catalog with one more entity, as its settings describe it. -/
def registerEntity (d : Catalog.Draft) (entry : String × EntitySettings) :
    Except CatalogError Catalog.Draft := do
  d.register (← entry.2.toEntity entry.1)

def catalog (s : Settings) : Except SettingsError Catalog :=
  (s.entities.entries.foldlM registerEntity .empty >>= Catalog.Draft.build).mapError .catalog

def compileOptions (s : Settings) : CompileOptions :=
  { dialect := s.query.dialect, defaultLimit := s.query.defaultLimit }

end Settings

end EntityQuery
