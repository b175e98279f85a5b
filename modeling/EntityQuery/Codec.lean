import EntityQuery.Sql.Expr
import EntityQuery.Value

/-!
Codecs turn the values of a filter into the literals that stand for them in storage. A filter is
compiled with a codec of the caller's choice and never looks into a value itself.
-/

namespace EntityQuery

open EntityQuery.Decimal
open EntityQuery.Sql (Literal)

inductive CodecError where
  | nonFinite (x : Binary64)
  | nestedList
  | unsavedReference (entity : String)
  | notScalar (found : String)
  | custom (text : String)
deriving DecidableEq

def CodecError.message : CodecError → String
  | .nonFinite x => "Cannot encode non-finite float " ++ x.toPlain
  | .nestedList => "Nested lists are not supported"
  | .unsavedReference e => "Cannot encode unsaved " ++ e ++ " reference"
  | .notScalar found => "Cannot encode " ++ found ++ " as a scalar"
  | .custom text => text

structure Codec where
  lower : Value → Except CodecError Literal
  lowerAll : List Value → Except CodecError (List Literal)

namespace Codec

/-- An element of a list, which may not be a list itself. -/
def lowerElement (lower : Value → Except CodecError Literal) (v : Value) :
    Except CodecError Literal :=
  if v.isList then .error .nestedList else lower v

/-- The codec that lowers a list one element after another. -/
def elementwise (lower : Value → Except CodecError Literal) : Codec where
  lower := lower
  lowerAll := List.mapM (lowerElement lower)

def checkFinite : Literal → Except CodecError Literal
  | .float x => if x.isFinite then .ok (.float x) else .error (.nonFinite x)
  | l => .ok l

/-- A codec that fails where `c` would give a number that is not finite. -/
def guarded (c : Codec) : Codec where
  lower v := c.lower v >>= checkFinite
  lowerAll vs := c.lowerAll vs >>= List.mapM checkFinite

/-- Scalars stand for themselves, and a reference for its identifier. -/
def lowerPlain : Value → Except CodecError Literal
  | .null => .ok .null
  | .bool b => .ok (.bool b)
  | .int n => .ok (.int n)
  | .float x => checkFinite (.float x)
  | .string s => .ok (.string s)
  | .entity ⟨_, some id⟩ => .ok (.string id)
  | .entity ⟨entity, none⟩ => .error (.unsavedReference entity)
  | .list vs => .error (.notScalar (Value.list vs).typeName)

def plain : Codec := elementwise lowerPlain

end Codec

end EntityQuery
