import EntityQuery.Compile.Draft
import EntityQuery.Sql.Layout

/-!
From specs to whole queries and their text. A query selects the columns of one entity's table, sorts
by the entity's primary key after all that the spec sorts by, and always has a limit.
-/

namespace EntityQuery

open EntityQuery.Sql (Dialect Query RenderError)

namespace Compile

/-- The limit of a spec that gives none, unless the caller chooses another. -/
def defaultLimit : UInt64 := 10000

def checkRowCount (part : PagePart) (n : UInt64) : Except CompileError UInt64 :=
  if n.toNat ≤ maxRowCount then .ok n else .error (.pageOutOfRange part n)

/-- An offset of nothing is left out. -/
def checkOffset : Option UInt64 → Except CompileError (Option UInt64)
  | none => .ok none
  | some n => return if (← checkRowCount .offset n) = 0 then none else some n

/-- The query before its filter: the rows of an entity's table. -/
def baseQuery (e : Entity) (asName : String) : Query :=
  { select := [.star (some asName)], source := some (tableOf e asName) }

/-- Drafts the query of an entity and gives the alias of its table. -/
def draftQuery (schema : Schema) (codec : Codec) (e : Entity) (spec : Spec) : CompileM String := do
  let asName ← newAlias e.table
  modifyQuery fun _ => baseQuery e asName
  compileClauses schema codec e asName spec.filter spec.order
  return asName

def addPage (q : Query) (limit : UInt64) (offset : Option UInt64) : Query :=
  match offset with
  | none => q.withLimit limit
  | some n => (q.withLimit limit).withOffset n

end Compile

open Compile

/-- The query for a spec on an entity. The page is checked first, and the codec is kept from giving
numbers that are not finite. -/
def Spec.toQuery (spec : Spec) (schema : Schema) (codec : Codec) (fallbackLimit : UInt64)
    (entity : String) : Except CompileError Query := do
  let limit ← checkRowCount .limit (spec.limit.getD fallbackLimit)
  let offset ← checkOffset spec.offset
  match schema entity with
  | none => throw (.unknownEntity entity)
  | some e =>
    let (result, draft) := (draftQuery schema codec.guarded e spec).run.run {}
    let asName ← result
    let last := ⟨columnOf asName e.primaryKey, .asc⟩
    return addPage (draft.query.addOrder last) limit offset

structure CompileOptions where
  dialect : Dialect := .postgres
  defaultLimit : UInt64 := Compile.defaultLimit

structure Compiled where
  sql : String
  query : Query
  dialect : Dialect

inductive CompileFailure where
  | rejected (e : CompileError)
  | unrenderable (e : RenderError)

/-- The query for a spec on an entity, and its text. -/
def Spec.compile (spec : Spec) (schema : Schema) (codec : Codec) (options : CompileOptions)
    (entity : String) : Except CompileFailure Compiled := do
  let query ← (spec.toQuery schema codec options.defaultLimit entity).mapError .rejected
  let sql ← (query.toSql options.dialect).mapError .unrenderable
  return { sql, query, dialect := options.dialect }

end EntityQuery
