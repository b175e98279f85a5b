import EntityQuery.FieldMap
import EntityQuery.Schema.Entity

/-!
Entities while they are filled: all columns in one list, the one of `id` among them, and an index
that says at which place a field has its column. The primary key stands by itself and in the column
of `id`. Nothing in the type holds the list, the index and the key together; every change has to.
-/

namespace EntityQuery

inductive EntityChange where
  | primaryKey (column : String)
  | schema (name : String)
  | column (c : Column)

/-- What a change comes to, and the entity after it: a refused column leaves it as it was. -/
def Entity.change (e : Entity) : EntityChange → Except CatalogError Unit × Entity
  | .primaryKey column => (.ok (), e.withPrimaryKey column)
  | .schema name => (.ok (), e.withSchema name)
  | .column c =>
    match e.addColumn c with
    | .ok e' => (.ok (), e')
    | .error err => (.error err, e)

structure IndexedEntity where
  name : String
  table : String
  schema : Option String := none
  primaryKey : String := idField
  columns : List Column := []
  index : FieldMap Nat := .empty

namespace IndexedEntity

/-- The column takes the next place, whatever its field. -/
def push (t : IndexedEntity) (c : Column) : IndexedEntity :=
  { t with columns := t.columns ++ [c], index := t.index.insert c.field t.columns.length }

def new (name table : String) : IndexedEntity :=
  push { name, table } { field := idField, column := idField }

def column? (t : IndexedEntity) (field : String) : Option Column :=
  (t.index.get? field).bind (t.columns[·]?)

/-- The column at the place of `id` moves along. -/
def withPrimaryKey (t : IndexedEntity) (column : String) : IndexedEntity :=
  let columns := match t.index.get? idField with
    | some i => t.columns.modify i fun c => { c with column }
    | none => t.columns
  { t with primaryKey := column, columns }

def withSchema (t : IndexedEntity) (schema : String) : IndexedEntity :=
  { t with schema := some schema }

/-- Only the index is asked whether the field is there. -/
def addColumn (t : IndexedEntity) (c : Column) : Except CatalogError Unit × IndexedEntity :=
  if (t.index.get? c.field).isSome then (.error (.duplicateField t.name c.field), t)
  else (.ok (), t.push c)

def change (t : IndexedEntity) : EntityChange → Except CatalogError Unit × IndexedEntity
  | .primaryKey column => (.ok (), t.withPrimaryKey column)
  | .schema name => (.ok (), t.withSchema name)
  | .column c => t.addColumn c

end IndexedEntity

end EntityQuery
