import EntityQuery.Settings.Basic
import EntityQuery.Toml.Document

/-!
Reading settings from TOML. A record is a table, of which entries that the record does not have are
left aside as long as their numbers are valid, or an array of its fields in their order, of which
what follows the last field is not looked at. An entry that is left out takes its default, if there
is one.
-/

namespace EntityQuery

open EntityQuery.Sql (Dialect)

namespace SettingsReader

/-- The entries of a record with these fields. A date has none of them. -/
def record? (fields : List String) : Toml → Option (FieldMap Toml)
  | .table entries =>
    if entries.entries.all fun (key, v) => fields.contains key || v.isValid then some entries
    else none
  | .array items => some (.ofList (fields.zip items))
  | .dateTime _ => some .empty
  | _ => none

def text? : Toml → Option String
  | .string s => some s
  | _ => none

def count? : Toml → Option UInt64
  | .integer n => if 0 ≤ n ∧ n < UInt64.size then some (UInt64.ofNat n.toNat) else none
  | _ => none

def list? {α : Type} (f : Toml → Option α) : Toml → Option (List α)
  | .array items => items.mapM f
  | _ => none

def isEmpty : Toml → Bool
  | .array items => items.isEmpty
  | .table entries => entries.isEmpty
  | _ => false

/-- A dialect is named by a string, or by the only entry of a table, which then holds nothing. -/
def dialect? : Toml → Option Dialect
  | .string s => Dialect.ofName? s
  | .table ⟨[(name, v)]⟩ => if isEmpty v then Dialect.ofName? name else none
  | _ => none

/-- The entry of a record, or a default for a missing one. -/
def entryD {α : Type} (r : FieldMap Toml) (field : String) (f : Toml → Option α) (default : α) :
    Option α :=
  match r.get? field with
  | some v => f v
  | none => some default

def optionalText? (r : FieldMap Toml) (field : String) : Option (Option String) :=
  entryD r field (fun v => (text? v).map some) none

def column? (v : Toml) : Option ColumnSettings := do
  let r ← record? ["field", "column", "references"] v
  return { field := ← (r.get? "field").bind text?, column := ← optionalText? r "column",
           references := ← optionalText? r "references" }

def entity? (v : Toml) : Option EntitySettings := do
  let r ← record? ["table", "schema", "primary_key", "columns"] v
  return { table := ← (r.get? "table").bind text?, schema := ← optionalText? r "schema",
           primaryKey := ← optionalText? r "primary_key",
           columns := ← entryD r "columns" (list? column?) [] }

def query? (v : Toml) : Option QuerySettings := do
  let r ← record? ["dialect", "default_limit"] v
  return { dialect := ← entryD r "dialect" dialect? .postgres,
           defaultLimit := ← entryD r "default_limit" count? Compile.defaultLimit }

def namedEntity? (entry : String × Toml) : Option (String × EntitySettings) :=
  (entity? entry.2).map (entry.1, ·)

def entities? : Toml → Option (FieldMap EntitySettings)
  | .table entries => (entries.entries.mapM namedEntity?).map .ofList
  | _ => none

def settings? (document : FieldMap Toml) : Option Settings := do
  let r ← record? ["query", "entities"] (.table document)
  return { query := ← entryD r "query" query? {},
           entities := ← entryD r "entities" entities? .empty }

end SettingsReader

/-- The settings that a TOML text spells. -/
def Settings.parse (text : String) : Except SettingsError Settings :=
  match (Toml.parse? text).bind SettingsReader.settings? with
  | some s => s.validate
  | none => .error .malformed

end EntityQuery
