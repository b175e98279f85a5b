import EntityQuery.Spec.Basic
import EntityQuery.Json.Parser
import EntityQuery.Json.Printer

/-!
Reading a spec from a JSON document with the members `where`, `orderBy`, `limit` and `offset`.
Members are read in the order of the document, and the first one that is wrong decides the error.

A clause is written as null, as a bare scalar, as a list, or as an object: with `op` and perhaps
`value` it compares by the operator named, with one member that is an operator it compares by that
one, with the one member `id` it tests the identifier, and any other object is a nested filter.
-/

namespace EntityQuery

inductive SpecError where
  | invalidJson
  | notAnObject (what : String)
  | unknownKey (key : String)
  | invalidDirection (field : String) (found : Json)
  | invalidCount (key : String) (found : Json)
  | operatorNotText (field : String) (found : Json)
  | objectAsValue (field : String)
  | numberOutOfRange (field : String) (found : Json.Number)

def SpecError.message : SpecError → String
  | .invalidJson => "Invalid JSON"
  | .notAnObject what => "Expected an object for " ++ what
  | .unknownKey key => "Unknown top-level key: " ++ key
  | .invalidDirection field found =>
    "Invalid order direction for '" ++ field ++ "': " ++ found.print
  | .invalidCount key found =>
    "'" ++ key ++ "' must be a non-negative integer, got " ++ found.print
  | .operatorNotText field found =>
    "Invalid value for '" ++ field ++ "': operator name must be a string, got " ++ found.print
  | .objectAsValue field =>
    "Invalid value for '" ++ field ++ "': objects are only allowed as nested filters"
  | .numberOutOfRange field found =>
    "Invalid value for '" ++ field ++ "': number " ++ (Json.number found).print
      ++ " is out of range"

namespace SpecReader

/-- An integer that is too large for a signed word becomes the nearest double. -/
def number (field : String) (n : Json.Number) : Except SpecError Value :=
  match n.int? with
  | some i => .ok (.int i)
  | none =>
    match n.double? with
    | some x => .ok (.float x)
    | none => .error (.numberOutOfRange field n)

mutual

def value (field : String) : Json → Except SpecError Value
  | .null => .ok .null
  | .bool b => .ok (.bool b)
  | .number n => number field n
  | .string s => .ok (.string s)
  | .array js => return .list (← values field js)
  | .object _ => .error (.objectAsValue field)

def values (field : String) : List Json → Except SpecError (List Value)
  | [] => .ok []
  | j :: js => return (← value field j) :: (← values field js)

end

/-- What an object stands for as a clause. -/
inductive ObjectForm where
  | named (op value : Json)
  | operator (op : Operator) (value : Json)
  | id (value : Json)
  | nested

def singleForm : List (String × Json) → ObjectForm
  | [(key, j)] =>
    match Operator.ofName? key with
    | some op => .operator op j
    | none => if key = "id" then .id j else .nested
  | _ => .nested

def objectForm (members : FieldMap Json) : ObjectForm :=
  match members.get? "op" with
  | some op =>
    if members.fields.all fun key => key == "op" || key == "value" then
      .named op ((members.get? "value").getD .null)
    else singleForm members.entries
  | none => singleForm members.entries

def namedClause (field : String) (op v : Json) : Except SpecError Clause :=
  match op with
  | .string name => do
    let v ← value field v
    match Operator.ofName? name with
    | some op => return .compare op v
    | none => return .unrecognized name
  | found => .error (.operatorNotText field found)

mutual

def filter (what : String) (j : Json) : Except SpecError Filter :=
  match j with
  | .null => .ok .empty
  | .object ⟨members⟩ => return .ofList (← clauses members)
  | _ => .error (.notAnObject what)
termination_by (sizeOf j, 0)

def clause (field : String) (j : Json) : Except SpecError Clause :=
  match j with
  | .null => .ok .null
  | .bool b => .ok (.value (.bool b))
  | .number n => return .value (← number field n)
  | .string s => .ok (.value (.string s))
  | .array js => return .list (← values field js)
  | .object ⟨members⟩ =>
    match objectForm ⟨members⟩ with
    | .named op v => namedClause field op v
    | .operator op v => return .compare op (← value field v)
    | .id v => return .id (← value field v)
    | .nested => return .nested (← filter field (.object ⟨members⟩))
termination_by (sizeOf j, 1)

def clauses (members : List (String × Json)) : Except SpecError (List (String × Clause)) :=
  match members with
  | [] => .ok []
  | (field, j) :: ms => return (field, ← clause field j) :: (← clauses ms)
termination_by (sizeOf members, 0)

end

mutual

def sortOrder (what : String) (j : Json) : Except SpecError SortOrder :=
  match j with
  | .null => .ok .empty
  | .object ⟨members⟩ => return .ofList (← sortClauses members)
  | _ => .error (.notAnObject what)
termination_by (sizeOf j, 0)

def sortClause (field : String) (j : Json) : Except SpecError SortClause :=
  match j with
  | .string s =>
    match Direction.ofText? s with
    | some d => .ok (.direction d)
    | none => .error (.invalidDirection field (.string s))
  | .object members => return .nested (← sortOrder field (.object members))
  | found => .error (.invalidDirection field found)
termination_by (sizeOf j, 1)

def sortClauses (members : List (String × Json)) :
    Except SpecError (List (String × SortClause)) :=
  match members with
  | [] => .ok []
  | (field, j) :: ms => return (field, ← sortClause field j) :: (← sortClauses ms)
termination_by (sizeOf members, 0)

end

def count (key : String) : Json → Except SpecError (Option UInt64)
  | .null => .ok none
  | .number n =>
    match n.count? with
    | some c => .ok (some c)
    | none => .error (.invalidCount key (.number n))
  | found => .error (.invalidCount key found)

/-- The spec with one member of the document taken into it. -/
def addMember (s : Spec) (member : String × Json) : Except SpecError Spec :=
  match member with
  | ("where", j) => return { s with filter := ← filter "where" j }
  | ("orderBy", j) => return { s with order := ← sortOrder "orderBy" j }
  | ("limit", j) => return { s with limit := ← count "limit" j }
  | ("offset", j) => return { s with offset := ← count "offset" j }
  | (key, _) => .error (.unknownKey key)

end SpecReader

namespace Spec

def ofJson : Json → Except SpecError Spec
  | .object members => members.entries.foldlM SpecReader.addMember {}
  | _ => .error (.notAnObject "filter document")

/-- The spec that a text spells. -/
def parse (text : String) : Except SpecError Spec :=
  match Json.parse? text with
  | some j => ofJson j
  | none => .error .invalidJson

end Spec

end EntityQuery
