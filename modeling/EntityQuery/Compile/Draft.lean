import EntityQuery.Compile.Alias
import EntityQuery.Compile.Predicate
import EntityQuery.Compile.Visit
import EntityQuery.Schema.Catalog
import EntityQuery.Sql.Query

/-!
Compiling a filter and an ordering into a query. Each field that is visited may add a predicate, an
order term, or a join with the table of the entity that it references, where the visits below it go
on. A failing visit leaves behind what was added before it.
-/

namespace EntityQuery.Compile

open EntityQuery.Sql (Expr Join OrderTerm Query Table)

/-- A query in the making, and the aliases that it uses. -/
structure Draft where
  aliases : Aliases := {}
  query : Query := {}

abbrev CompileM := ExceptT CompileError (StateM Draft)

def modifyQuery (f : Query → Query) : CompileM Unit :=
  modify fun d => { d with query := f d.query }

def newAlias (table : String) : CompileM String :=
  modifyGet fun d =>
    let (name, aliases) := d.aliases.allocate table
    (name, { d with aliases })

/-- The table of an entity, under an alias. -/
def tableOf (e : Entity) (asName : String) : Table :=
  { name := e.table, schema := e.schema, asName := some asName }

/-- The column `column` of the table with this alias. -/
def columnOf (asName column : String) : Expr := .column (some asName) column

def addPredicate : Option Expr → CompileM Unit
  | some e => modifyQuery (·.addPredicate e)
  | none => pure ()

def addOrder (column : Expr) : Option SortClause → CompileM Unit
  | some (.direction d) => modifyQuery (·.addOrder ⟨column, d⟩)
  | _ => pure ()

/-- A plain column has no row behind it to sort by. -/
def checkPlainOrder (site : Site) : Option SortClause → Except CompileError Unit
  | some (.nested _) => .error (.unsupported site .nestedOrderOfPlainColumn)
  | _ => .ok ()

/-- A plain column: a predicate and an order term, if asked for. -/
def visitPlain (codec : Codec) (site : Site) (column : Expr) (clause : Clause)
    (order : Option SortClause) : CompileM Unit := do
  addPredicate (← plainPredicate codec site column clause)
  checkPlainOrder site order
  addOrder column order

/-- The key column of a foreign key: a predicate and an order term, if asked for. -/
def visitKey (codec : Codec) (site : Site) (column : Expr) (clause : Clause)
    (order : Option SortClause) : CompileM Unit := do
  addPredicate (← keyPredicate codec site column clause)
  addOrder column order

/-- Whether a clause or an order goes on in the row that a foreign key points at. -/
def goesOn (clause : Clause) (order : Option SortClause) : Bool :=
  clause.isNested || order.any SortClause.isNested

/-- Joins the table of the entity that the key column references. -/
def joinRelated (schema : Schema) (column : Expr) (target : String) :
    CompileM (Entity × String) := do
  match schema target with
  | none => throw (.unknownEntity target)
  | some related =>
    let asName ← newAlias related.table
    let condition := .compare .eq column (columnOf asName related.primaryKey)
    modifyQuery (·.addJoin ⟨tableOf related asName, condition⟩)
    return (related, asName)

/-- What a field adds to the query by itself. If its clause or its order goes on in the row that it
points at, the table of that row is joined, and its entity and alias are returned. -/
def visitField (schema : Schema) (codec : Codec) (e : Entity) (asName field : String)
    (clause : Clause) (order : Option SortClause) : CompileM (Option (Entity × String)) := do
  let site : Site := ⟨e.name, field⟩
  match e.column? field with
  | none => throw (.unknownField site)
  | some c =>
    let column := columnOf asName c.column
    match c.references with
    | none =>
      visitPlain codec site column clause order
      return none
    | some target =>
      visitKey codec site column clause order
      if goesOn clause order then
        return some (← joinRelated schema column target)
      else
        return none

mutual

def visit (schema : Schema) (codec : Codec) (e : Entity) (asName : String) : Visit → CompileM Unit
  | .field name clause order below => do
    match ← visitField schema codec e asName name clause order with
    | some (related, relatedName) => visitAll schema codec related relatedName below
    | none => pure ()

def visitAll (schema : Schema) (codec : Codec) (e : Entity) (asName : String) :
    List Visit → CompileM Unit
  | [] => pure ()
  | v :: vs => do
    visit schema codec e asName v
    visitAll schema codec e asName vs

end

/-- Compiles a filter and an ordering of the entity whose table has the alias `asName`. -/
def compileClauses (schema : Schema) (codec : Codec) (e : Entity) (asName : String)
    (filter : Filter) (ordering : SortOrder) : CompileM Unit :=
  visitAll schema codec e asName (Visit.ofScope filter ordering)

end EntityQuery.Compile
