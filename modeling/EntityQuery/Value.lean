import EntityQuery.Decimal.Notation
import EntityQuery.Text.Quoted

/-!
The values that a filter compares with: scalars, references to instances of entities, and lists.
-/

namespace EntityQuery

open EntityQuery.Decimal

/-- An instance of an entity. Without an identifier it has not been stored yet, so that no stored
row can be the one meant. -/
structure EntityRef where
  entity : String
  id : Option String
deriving DecidableEq

def EntityRef.isSaved (r : EntityRef) : Bool := r.id.isSome

def EntityRef.display (r : EntityRef) : String :=
  r.entity ++ "(" ++ r.id.getD "unsaved" ++ ")"

inductive Value where
  | null
  | bool (b : Bool)
  | int (n : Int64)
  | float (x : Binary64)
  | string (s : String)
  | entity (ref : EntityRef)
  | list (items : List Value)

namespace Value

def isNull : Value → Bool
  | .null => true
  | _ => false

def isList : Value → Bool
  | .list _ => true
  | _ => false

def isUnsaved : Value → Bool
  | .entity r => !r.isSaved
  | _ => false

def typeName : Value → String
  | .null => "null"
  | .bool _ => "bool"
  | .int _ => "int"
  | .float _ => "float"
  | .string _ => "string"
  | .entity _ => "entity reference"
  | .list _ => "list"

mutual

/-- The value as people read it. -/
def display : Value → String
  | .null => "null"
  | .bool b => if b then "true" else "false"
  | .int n => toString n.toInt
  | .float x => x.toPlain
  | .string s => Text.quoted s
  | .entity r => r.display
  | .list vs => "[" ++ String.intercalate ", " (displayAll vs) ++ "]"

def displayAll : List Value → List String
  | [] => []
  | v :: vs => v.display :: displayAll vs

end

end Value

end EntityQuery
