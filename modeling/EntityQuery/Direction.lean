/-! The two directions in which rows can be sorted. -/

namespace EntityQuery

inductive Direction where
  | asc
  | desc
deriving DecidableEq

def Direction.keyword : Direction → String
  | .asc => "ASC"
  | .desc => "DESC"

/-- The direction that a text names; the case of its letters does not matter. -/
def Direction.ofText? (s : String) : Option Direction :=
  match s.toList.map Char.toLower with
  | ['a', 's', 'c'] => some .asc
  | ['d', 'e', 's', 'c'] => some .desc
  | _ => none

end EntityQuery
