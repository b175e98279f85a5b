import EntityQuery.Compile.Error
import EntityQuery.Spec.Filter

/-!
The predicate on a column that a clause stands for. A plain column is compared with values, and a
foreign key with identifiers.
-/

namespace EntityQuery.Compile

open EntityQuery.Sql (Comparison Expr Literal)

def lower (codec : Codec) (v : Value) : Except CompileError Literal :=
  (codec.lower v).mapError .codec

def lowerAll (codec : Codec) (vs : List Value) : Except CompileError (List Literal) :=
  (codec.lowerAll vs).mapError .codec

/-- The column holds one of the literals. -/
def membership (column : Expr) (ls : List Literal) : Expr := .inList column (ls.map .literal)

/-- The comparison that an operator makes; membership makes none. -/
def comparison? : Operator → Option Comparison
  | .eq => some .eq
  | .ne => some .ne
  | .gt => some .gt
  | .gte => some .gte
  | .lt => some .lt
  | .lte => some .lte
  | .like => some .like
  | .ilike => some .ilike
  | .inList => none

/-- Only equality and its negation have a meaning for null. -/
def compareNull (site : Site) (column : Expr) : Operator → Except CompileError Expr
  | .eq => .ok (.isNull column false)
  | .ne => .ok (.isNull column true)
  | op => .error (.unsupported site (.nullOperand op))

/-- Only membership has a meaning for lists, and a single value is a list of one to it. -/
def compareValue (codec : Codec) (site : Site) (column : Expr) (op : Operator) (v : Value) :
    Except CompileError Expr :=
  match v, comparison? op with
  | .null, _ => compareNull site column op
  | .list vs, none => return membership column (← lowerAll codec vs)
  | v, none => return membership column [← lower codec v]
  | .list _, some _ => .error (.unsupported site (.listOperand op))
  | v, some c => return .compare c column (.literal (← lower codec v))

/-- The predicate on a plain column, if the clause asks for one. -/
def plainPredicate (codec : Codec) (site : Site) (column : Expr) (clause : Clause) :
    Except CompileError (Option Expr) :=
  match clause.normalized with
  | .absent => .ok none
  | .null => .ok (some (.isNull column false))
  | .list [] => .ok (some .never)
  | .list vs => return some (membership column (← lowerAll codec vs))
  | .value v => return some (.compare .eq column (.literal (← lower codec v)))
  | .compare op v => return some (← compareValue codec site column op v)
  | .id _ => .error (.unsupported site .idOfPlainColumn)
  | .nested _ => .error (.unsupported site .nestedFilterOfPlainColumn)
  | .unrecognized name => .error (.unsupported site (.unrecognizedOperator name))

/-! Foreign keys -/

/-- No stored key is that of an instance that was never stored, so such references are dropped. -/
def matchAnyKey (codec : Codec) (column : Expr) (vs : List Value) : Except CompileError Expr :=
  match vs.filter (!·.isUnsaved) with
  | [] => .ok .never
  | keys => return membership column (← lowerAll codec keys)

def matchKey (codec : Codec) (column : Expr) (v : Value) : Except CompileError Expr :=
  match v with
  | .null => .ok (.isNull column false)
  | .list vs => matchAnyKey codec column vs
  | v => if v.isUnsaved then .ok .never else return .compare .eq column (.literal (← lower codec v))

/-- What a value is called where a key was expected. -/
def describe (v : Value) : String := if v.isUnsaved then "an unsaved reference" else v.typeName

/-- The key is another one than `v`. -/
def excludeKey (codec : Codec) (site : Site) (column : Expr) (v : Value) :
    Except CompileError Expr :=
  if v.isNull then .ok (.isNull column true)
  else if v.isList || v.isUnsaved then
    .error (.unsupported site (.notAnIdentifier (describe v)))
  else return .compare .ne column (.literal (← lower codec v))

/-- The predicate on a foreign key, if the clause asks for one. A nested filter asks for none: it is
met by the row that the key points at. -/
def keyPredicate (codec : Codec) (site : Site) (column : Expr) (clause : Clause) :
    Except CompileError (Option Expr) :=
  match clause with
  | .absent | .nested _ => .ok none
  | .null => .ok (some (.isNull column false))
  | .value v | .id v | .compare .eq v | .compare .inList v =>
    return some (← matchKey codec column v)
  | .list vs => return some (← matchAnyKey codec column vs)
  | .compare .ne v => return some (← excludeKey codec site column v)
  | .compare op _ => .error (.unsupported site (.operatorOnForeignKey op))
  | .unrecognized name => .error (.unsupported site (.unrecognizedOperator name))

end EntityQuery.Compile
