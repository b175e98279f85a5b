import EntityQuery.Toml.Basic

/-!
A TOML document under construction: tables that later lines may still extend, and values that no
line changes. A header opens a table once, even if a longer header has implied it before; keys with
dots make tables that no header opens and that only such keys extend.
-/

namespace EntityQuery.Toml

/-- What made a table. -/
inductive Origin where
  | header
  /-- A longer header. -/
  | implied
  | dottedKey
deriving DecidableEq

inductive Node where
  | value (v : Toml)
  | table (origin : Origin) (entries : FieldMap Node)
  /-- Tables under a doubled header; later lines extend the last of them. -/
  | tables (elements : List (FieldMap Node))

abbrev Outline := FieldMap Node

namespace Outline

/-- Changes the last of some tables. -/
def changeLast (f : Outline → Option Outline) : List Outline → Option (List Outline)
  | [] => none
  | [m] => (f m).map ([·])
  | m :: ms => (changeLast f ms).map (m :: ·)

/-- Changes the table that a header names, implying the tables on the way to it. -/
def changeAt (f : Outline → Option Outline) : (path : List String) → Outline → Option Outline
  | [], m => f m
  | k :: ks, m =>
    match m.get? k with
    | none => (changeAt f ks .empty).map fun t => m.insert k (.table .implied t)
    | some (.table origin t) => (changeAt f ks t).map fun t => m.insert k (.table origin t)
    | some (.tables ts) => (changeLast (changeAt f ks) ts).map fun ts => m.insert k (.tables ts)
    | some (.value _) => none

/-- Opens the table of a header. -/
def openTable (key : String) (m : Outline) : Option Outline :=
  match m.get? key with
  | none => some (m.insert key (.table .header .empty))
  | some (.table .implied entries) => some (m.insert key (.table .header entries))
  | some _ => none

/-- Opens one more table of a doubled header. -/
def openElement (key : String) (m : Outline) : Option Outline :=
  match m.get? key with
  | none => some (m.insert key (.tables [.empty]))
  | some (.tables ts) => some (m.insert key (.tables (ts ++ [.empty])))
  | some _ => none

/-- Sets a new key below a dotted path. The table that takes the key must be one that dotted keys
make, unless there is no path. -/
def setDotted (key : String) (v : Toml) : (path : List String) → Outline → Option Outline
  | [], m => if (m.get? key).isSome then none else some (m.insert key (.value v))
  | k :: ks, m =>
    match m.get? k with
    | none => (setDotted key v ks .empty).map fun t => m.insert k (.table .dottedKey t)
    | some (.table .dottedKey t) =>
      (setDotted key v ks t).map fun t => m.insert k (.table .dottedKey t)
    | some (.table .implied t) =>
      if ks.isEmpty then none
      else (setDotted key v ks t).map fun t => m.insert k (.table .implied t)
    | some (.tables ts) =>
      if ks.isEmpty then none
      else (changeLast (setDotted key v ks) ts).map fun ts => m.insert k (.tables ts)
    | some _ => none

end Outline

mutual

def Node.close : Node → Toml
  | .value v => v
  | .table _ ⟨es⟩ => .table ⟨closeEntries es⟩
  | .tables ts => .array (closeTables ts)

def closeEntries : List (String × Node) → List (String × Toml)
  | [] => []
  | (k, n) :: es => (k, n.close) :: closeEntries es

def closeTables : List (FieldMap Node) → List Toml
  | [] => []
  | ⟨es⟩ :: ts => .table ⟨closeEntries es⟩ :: closeTables ts

end

/-- The finished table. -/
def Outline.close (m : Outline) : FieldMap Toml := ⟨closeEntries m.entries⟩

end EntityQuery.Toml
