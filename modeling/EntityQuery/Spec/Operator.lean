/-! The operators that a filter may name. -/

namespace EntityQuery

inductive Operator where
  | eq
  | ne
  | gt
  | gte
  | lt
  | lte
  | like
  | ilike
  | inList
deriving DecidableEq

namespace Operator

def all : List Operator := [.eq, .ne, .gt, .gte, .lt, .lte, .like, .ilike, .inList]

def name : Operator → String
  | .eq => "eq"
  | .ne => "ne"
  | .gt => "gt"
  | .gte => "gte"
  | .lt => "lt"
  | .lte => "lte"
  | .like => "like"
  | .ilike => "ilike"
  | .inList => "in"

def ofName? (s : String) : Option Operator := all.find? (·.name == s)

theorem ofName?_name (op : Operator) : ofName? op.name = some op := by cases op <;> decide

theorem name_eq_of_ofName? {s : String} {op : Operator} (h : ofName? s = some op) :
    op.name = s := by
  simpa using List.find?_some h

end Operator

end EntityQuery
