/-!
The four SQL dialects and what they lack: truth values of their own, matching that ignores case, or
pages of a result without an order.
-/

namespace EntityQuery.Sql

inductive Dialect where
  | postgres
  | duckdb
  | mysql
  | tsql
deriving DecidableEq, Inhabited

namespace Dialect

def all : List Dialect := [.postgres, .duckdb, .mysql, .tsql]

def name : Dialect → String
  | .postgres => "postgres"
  | .duckdb => "duckdb"
  | .mysql => "mysql"
  | .tsql => "tsql"

def ofName? (s : String) : Option Dialect := all.find? (·.name == s)

theorem ofName?_name (d : Dialect) : ofName? d.name = some d := by
  cases d <;> decide

def supportsIlike : Dialect → Bool
  | .postgres | .duckdb => true
  | .mysql | .tsql => false

/-- Whether a page can only be cut from an ordered result. -/
def pagesNeedOrder : Dialect → Bool
  | .tsql => true
  | _ => false

def truth (d : Dialect) (b : Bool) : String :=
  match d with
  | .postgres | .duckdb => if b then "true" else "false"
  | .mysql | .tsql => if b then "1" else "0"

end Dialect

end EntityQuery.Sql
