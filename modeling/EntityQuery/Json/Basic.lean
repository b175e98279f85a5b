import EntityQuery.Decimal.Reading
import EntityQuery.FieldMap

/-!
JSON values. A number is an integer as long as 64 bits hold it and a double otherwise; the members
of an object keep the order in which the document first names them.
-/

namespace EntityQuery

open EntityQuery.Decimal

inductive Json.Number where
  | natural (n : UInt64)
  | negative (n : Int64) (isNegative : n < 0)
  | float (x : Binary64) (isFinite : x.isFinite = true)
deriving DecidableEq

inductive Json where
  | null
  | bool (b : Bool)
  | number (n : Json.Number)
  | string (s : String)
  | array (items : List Json)
  | object (members : FieldMap Json)

namespace Json.Number

/-- The count that a number is, if it is one. -/
def count? : Number → Option UInt64
  | .natural n => some n
  | _ => none

/-- The integer that a number is, if it is one that a signed word holds. -/
def int? : Number → Option Int64
  | .natural n => if n.toNat < 0x8000000000000000 then some (Int64.ofNat n.toNat) else none
  | .negative n _ => some n
  | .float _ _ => none

/-- The double nearest to a number, if it is in range. -/
def double? : Number → Option Binary64
  | .natural n => some (.ofCount n)
  | .negative n _ => some (.ofMagnitude true (nearestMagnitude n.toInt.natAbs 1))
  | .float x _ => some x

end Json.Number

end EntityQuery
