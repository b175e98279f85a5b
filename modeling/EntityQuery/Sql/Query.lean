import EntityQuery.Direction
import EntityQuery.Sql.Expr

/-!
Select queries over one table and its inner joins: a list of predicates that must all hold, a list
of order terms, and a page. Queries are built up one part at a time.
-/

namespace EntityQuery.Sql

structure Table where
  name : String
  schema : Option String := none
  asName : Option String := none
deriving DecidableEq

/-- The name by which the rest of a query speaks of the table. -/
def Table.referenceName (t : Table) : String := t.asName.getD t.name

/-- A table whose rows are joined where the condition holds. -/
structure Join where
  table : Table
  condition : Expr

structure OrderTerm where
  expr : Expr
  direction : Direction

/-- The rows to return: at most `limit` of them, after skipping `offset`. -/
structure Page where
  limit : Option UInt64 := none
  offset : Option UInt64 := none
deriving DecidableEq

structure Query where
  select : List Expr := []
  source : Option Table := none
  joins : List Join := []
  predicates : List Expr := []
  order : List OrderTerm := []
  page : Option Page := none

namespace Query

def empty : Query := {}

def withSelect (q : Query) (es : List Expr) : Query := { q with select := es }

def withSource (q : Query) (t : Table) : Query := { q with source := some t }

def addJoin (q : Query) (j : Join) : Query := { q with joins := q.joins ++ [j] }

def addPredicate (q : Query) (e : Expr) : Query := { q with predicates := q.predicates ++ [e] }

def withOrder (q : Query) (ts : List OrderTerm) : Query := { q with order := ts }

def addOrder (q : Query) (t : OrderTerm) : Query := { q with order := q.order ++ [t] }

def withLimit (q : Query) (n : UInt64) : Query :=
  { q with page := some { q.page.getD {} with limit := some n } }

def withOffset (q : Query) (n : UInt64) : Query :=
  { q with page := some { q.page.getD {} with offset := some n } }

end Query

end EntityQuery.Sql
