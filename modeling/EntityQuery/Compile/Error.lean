import EntityQuery.Codec
import EntityQuery.Spec.Operator

/-! Why a spec cannot be compiled. -/

namespace EntityQuery.Compile

/-- What a column does not support. -/
inductive Unsupported where
  | nullOperand (op : Operator)
  | listOperand (op : Operator)
  | idOfPlainColumn
  | nestedFilterOfPlainColumn
  | nestedOrderOfPlainColumn
  | unrecognizedOperator (name : String)
  | operatorOnForeignKey (op : Operator)
  /-- Something that cannot differ from a key, described in words. -/
  | notAnIdentifier (found : String)
deriving DecidableEq

def Unsupported.message : Unsupported → String
  | .nullOperand op => "operator '" ++ op.name ++ "' cannot take null"
  | .listOperand op => "operator '" ++ op.name ++ "' cannot take a list"
  | .idOfPlainColumn => "the 'id' form only applies to foreign keys"
  | .nestedFilterOfPlainColumn => "nested filters only apply to foreign keys"
  | .nestedOrderOfPlainColumn => "nested ordering only applies to foreign keys"
  | .unrecognizedOperator name => "unrecognized operator '" ++ name ++ "'"
  | .operatorOnForeignKey op => "operator '" ++ op.name ++ "' is not supported on a foreign key"
  | .notAnIdentifier found =>
    "'ne' on a foreign key needs an identifier, a saved reference or null, got " ++ found

inductive PagePart where
  | limit
  | offset
deriving DecidableEq

def PagePart.name : PagePart → String
  | .limit => "limit"
  | .offset => "offset"

/-- A field of an entity, where a clause stands. -/
structure Site where
  entity : String
  field : String
deriving DecidableEq

/-- The largest number of rows that databases count to. -/
def maxRowCount : Nat := 9223372036854775807

theorem maxRowCount_eq : maxRowCount = Nat.pow 2 63 - 1 := rfl

end Compile

inductive CompileError where
  | unknownField (site : Compile.Site)
  | unknownEntity (name : String)
  | unsupported (site : Compile.Site) (reason : Compile.Unsupported)
  | pageOutOfRange (part : Compile.PagePart) (n : UInt64)
  | codec (e : CodecError)
deriving DecidableEq

def CompileError.message : CompileError → String
  | .unknownField site =>
    "Unknown field '" ++ site.field ++ "' on entity '" ++ site.entity ++ "'"
  | .unknownEntity name => "Unknown entity: " ++ name
  | .unsupported site reason =>
    "Unsupported filter on " ++ site.entity ++ "." ++ site.field ++ ": " ++ reason.message
  | .pageOutOfRange part n =>
    "Pagination " ++ part.name ++ " " ++ toString n.toNat ++ " exceeds the largest row count ("
      ++ toString Compile.maxRowCount ++ ")"
  | .codec e => e.message

end EntityQuery
