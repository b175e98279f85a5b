import EntityQuery.Decimal.Binary64
import EntityQuery.FieldMap

/-!
TOML values. A date or a time is kept as it is written. What has the form of a number but is none in
range may stand in a document as long as nobody needs its value.
-/

namespace EntityQuery

open EntityQuery.Decimal

inductive Toml where
  | string (s : String)
  | integer (n : Int)
  | float (x : Binary64)
  /-- A word in the form of a number that is none. -/
  | invalidNumber
  | boolean (b : Bool)
  | dateTime (text : String)
  | array (items : List Toml)
  | table (entries : FieldMap Toml)

namespace Toml

mutual

/-- Every number in the value is one. -/
def isValid : Toml → Bool
  | .invalidNumber => false
  | .array items => areValid items
  | .table ⟨entries⟩ => areValidEntries entries
  | _ => true

def areValid : List Toml → Bool
  | [] => true
  | v :: vs => v.isValid && areValid vs

def areValidEntries : List (String × Toml) → Bool
  | [] => true
  | (_, v) :: es => v.isValid && areValidEntries es

end

end Toml

end EntityQuery
