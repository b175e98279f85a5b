import EntityQuery.Proofs.Compile.Scope
import EntityQuery.Proofs.Semantics.Evaluation

/-!
What a filter says about a database, read field by field along foreign keys. A row is a witness of a
scope if its cells meet the clauses, and if each foreign key that the scope goes on at points at a
row which is a witness of the scope there. Two witnesses are told apart by the rows that they follow
the keys to.
-/

namespace EntityQuery

open EntityQuery.Compile (Named Scope)
open EntityQuery.Sql (Comparison Database Interpretation Row choices)

namespace Reading

variable {D : Type} (I : Interpretation D) (codec : Codec)

/-! Clauses -/

/-- The cell compares so with what the codec makes of the value. -/
def compares (op : Comparison) (cell : Option D) (v : Value) : Bool :=
  match codec.lower v with
  | .ok l => I.compare op cell (I.literal l) == some true
  | .error _ => false

/-- The cell is one of what the codec makes of the values. -/
def isAmong (cell : Option D) (vs : List Value) : Bool :=
  match codec.lowerAll vs with
  | .ok ls => ls.any fun l => I.compare .eq cell (I.literal l) == some true
  | .error _ => false

/-- Each operator is its comparison, and membership in a single value is equality. Only equality and
its negation say something of null, and only membership of a list. -/
def operatorHolds (cell : Option D) : Operator → Value → Bool
  | .eq, .null => cell.isNone
  | .ne, .null => cell.isSome
  | _, .null => false
  | .inList, .list vs => isAmong I codec cell vs
  | _, .list _ => false
  | .inList, v => compares I codec .eq cell v
  | .eq, v => compares I codec .eq cell v
  | .ne, v => compares I codec .ne cell v
  | .gt, v => compares I codec .gt cell v
  | .gte, v => compares I codec .gte cell v
  | .lt, v => compares I codec .lt cell v
  | .lte, v => compares I codec .lte cell v
  | .like, v => compares I codec .like cell v
  | .ilike, v => compares I codec .ilike cell v

def plainHolds (cell : Option D) : Clause → Bool
  | .absent => true
  | .null | .value .null => cell.isNone
  | .list vs | .value (.list vs) => !vs.isEmpty && isAmong I codec cell vs
  | .value v => compares I codec .eq cell v
  | .compare op v => operatorHolds I codec cell op v
  | .id _ | .nested _ | .unrecognized _ => false

/-- Only references to what is stored count. -/
def keyIsAmong (cell : Option D) (vs : List Value) : Bool :=
  let stored := vs.filter Value.isStored
  !stored.isEmpty && isAmong I codec cell stored

def keyIs (cell : Option D) : Value → Bool
  | .null => cell.isNone
  | .list vs => keyIsAmong I codec cell vs
  | v => v.isStored && compares I codec .eq cell v

def keyIsNot (cell : Option D) : Value → Bool
  | .null => cell.isSome
  | .list _ => false
  | v => v.isStored && compares I codec .ne cell v

/-- A nested filter asks nothing of the key itself. -/
def keyHolds (cell : Option D) : Clause → Bool
  | .absent | .nested _ => true
  | .null => cell.isNone
  | .value v | .id v | .compare .eq v | .compare .inList v => keyIs I codec cell v
  | .list vs => keyIsAmong I codec cell vs
  | .compare .ne v => keyIsNot I codec cell v
  | .compare _ _ | .unrecognized _ => false

def fieldHolds (e : Entity) (r : Row D) (n : Named) : Bool :=
  match e.columns.find? (·.field == n.field) with
  | none => false
  | some c =>
    match c.references with
    | none => plainHolds I codec (r c.column) n.clause
    | some _ => keyHolds I codec (r c.column) n.clause

/-! Witnesses -/

/-- A row, and a witness below for each foreign key that is followed from it. -/
inductive Witness (D : Type) where
  | node (row : Row D) (below : List (Witness D))

mutual

/-- The rows of a witness, each before those below it. -/
def Witness.rows : Witness D → List (Row D)
  | .node r below => r :: rowsOfAll below

def rowsOfAll : List (Witness D) → List (Row D)
  | [] => []
  | w :: ws => w.rows ++ rowsOfAll ws

end

/-- The rows of an entity's table that a key points at. -/
def pointees (db : Database D) (e : Entity) (key : Option D) : List (Row D) :=
  (db e.schema e.table).filter fun r => I.compare .eq key (r e.primaryKey) == some true

/-- What may follow on a row for one field: a witness for a key that is followed, nothing for any
other field, and no way on at all if the clause is not met. -/
def ways (schema : Schema) (db : Database D) (e : Entity) (r : Row D) (n : Named)
    (follow : Entity → Row D → List (Witness D)) : List (List (Witness D)) :=
  if fieldHolds I codec e r n then
    match n.hop? schema e with
    | some (key, related) =>
      (pointees I db related (r key)).flatMap fun r' => (follow related r').map fun w => [w]
    | none => [[]]
  else []

/-- Every witness of a scope that starts at this row of an entity's table. -/
def witnesses (schema : Schema) (db : Database D) (e : Entity) (s : Scope) (r : Row D) :
    List (Witness D) :=
  (choices (s.named.attach.map fun n =>
    ways I codec schema db e r n.1 fun related r' =>
      witnesses schema db related n.1.below r')).map fun below => .node r below.flatten
termination_by s
decreasing_by exact Scope.sizeOf_below_lt n.2

theorem witnesses_eq (schema : Schema) (db : Database D) (e : Entity) (s : Scope) (r : Row D) :
    witnesses I codec schema db e s r =
      (choices (s.named.map fun n =>
        ways I codec schema db e r n fun related r' =>
          witnesses I codec schema db related n.below r')).map fun below =>
        .node r below.flatten := by
  rw [witnesses, ← List.attach_map_val (l := s.named)]

end Reading

end EntityQuery
