import EntityQuery.Schema.IndexedEntity
import Mathlib.Data.List.Nodup

/-!
Entities under changes. However often the primary key is moved and whatever columns are offered, the
index of an entity says just where its fields are, the first column is that of `id`, stored in the
primary key, and after it stand the columns that were accepted. The invariant is that the entity
with the index shows what the entity shows whose type forbids a field to stand twice.
-/

namespace EntityQuery

namespace Entity

variable {e : Entity} {c : Column} {field : String}

theorem column?_eq_some_iff : e.column? field = some c ↔ c ∈ e.columns ∧ c.field = field := by
  refine ⟨column?_eq_some, ?_⟩
  rintro ⟨hc, rfl⟩
  have hsome : (e.column? c.field).isSome = true := List.find?_isSome.2 ⟨c, hc, by simp⟩
  obtain ⟨c', h'⟩ := Option.isSome_iff_exists.1 hsome
  obtain ⟨hc', hf⟩ := column?_eq_some h'
  rw [h', List.inj_on_of_nodup_map e.nodup_fields hc' hc hf]

/-- A look-up goes to the place of the field. -/
theorem column?_eq_bind (e : Entity) (field : String) :
    e.column? field = (e.fields.idxOf? field).bind (e.columns[·]?) := by
  rw [column?, List.find?_eq_bind_findIdx?_getElem?, fields, List.idxOf?, List.findIdx?_map]
  rfl

theorem addColumn_of_mem (h : c.field ∈ e.fields) :
    e.addColumn c = .error (.duplicateField e.name c.field) := dif_pos h

theorem addColumn_of_notMem (h : c.field ∉ e.fields) :
    e.addColumn c = .ok { e with others := e.others ++ [c], nodup := nodup_append_field h } :=
  dif_neg h

theorem change_column_of_mem (h : c.field ∈ e.fields) :
    e.change (.column c) = (.error (.duplicateField e.name c.field), e) := by
  rw [change, addColumn_of_mem h]

theorem change_column_of_notMem (h : c.field ∉ e.fields) :
    e.change (.column c) =
      (.ok (), { e with others := e.others ++ [c], nodup := nodup_append_field h }) := by
  rw [change, addColumn_of_notMem h]

/-- Columns that are added come after those there are. -/
theorem fields_append (e : Entity) (cs : List Column)
    (h : (idField :: (e.others ++ cs).map (·.field)).Nodup) :
    ({ e with others := e.others ++ cs, nodup := h } : Entity).fields =
      e.fields ++ cs.map (·.field) := by
  simp [fields, columns, idColumn]

/-- The entity after all changes. -/
def changeAll (e : Entity) (changes : List EntityChange) : Entity :=
  changes.foldl (fun e change => (e.change change).2) e

end Entity

namespace EntityChange

/-- The column that a change adds, if it is not refused. -/
def added : EntityChange → Except CatalogError Unit → List Column
  | .column c, .ok () => [c]
  | _, _ => []

/-- The column that a change moves the primary key to. -/
def key? : EntityChange → Option String
  | .primaryKey key => some key
  | _ => none

end EntityChange

namespace IndexedEntity

/-- The entity after all changes. -/
def changeAll (t : IndexedEntity) (changes : List EntityChange) : IndexedEntity :=
  changes.foldl (fun t change => (t.change change).2) t

/-- The columns that are accepted on the way through the changes. -/
def accepted (t : IndexedEntity) : List EntityChange → List Column
  | [] => []
  | change :: changes =>
    change.added (t.change change).1 ++ (t.change change).2.accepted changes

/-- Both entities hold the same, and the index has each field at its place. -/
structure Shows (t : IndexedEntity) (e : Entity) : Prop where
  name : t.name = e.name
  table : t.table = e.table
  schema : t.schema = e.schema
  primaryKey : t.primaryKey = e.primaryKey
  columns : t.columns = e.columns
  index : ∀ field, t.index.get? field = e.fields.idxOf? field

/-! Single changes -/

variable {t : IndexedEntity} {e : Entity} {c : Column}

theorem shows_new (name table : String) : (new name table).Shows { name, table } where
  name := rfl
  table := rfl
  schema := rfl
  primaryKey := rfl
  columns := rfl
  index field := by
    by_cases h : field = idField
    · subst h
      rfl
    · have hne : (idField == field) = false := by simpa using Ne.symm h
      rw [new, push, FieldMap.get?_insert_of_ne h, FieldMap.get?_empty]
      simp [Entity.fields, Entity.columns, Entity.idColumn, List.idxOf?_cons, hne]

theorem Shows.column? (h : t.Shows e) (field : String) : t.column? field = e.column? field := by
  rw [IndexedEntity.column?, h.index, h.columns, Entity.column?_eq_bind]

theorem Shows.map_field (h : t.Shows e) : t.columns.map (·.field) = e.fields := by
  rw [h.columns, Entity.fields]

theorem idxOf?_append_singleton (fs : List String) (f field : String) :
    (fs ++ [f]).idxOf? field =
      (fs.idxOf? field).or (if f = field then some fs.length else none) := by
  induction fs with
  | nil => by_cases h : f = field <;> simp [List.idxOf?_cons, h]
  | cons g fs ih =>
    rw [List.cons_append, List.idxOf?_cons, List.idxOf?_cons, ih]
    by_cases hg : g = field
    · simp [hg]
    · by_cases h : f = field <;> cases fs.idxOf? field <;> simp [hg, h]

/-- A column of a new field takes the place behind the others, and the index says so. -/
theorem Shows.push (h : t.Shows e) (hc : c.field ∉ e.fields) :
    (t.push c).Shows
      { e with others := e.others ++ [c], nodup := Entity.nodup_append_field hc } where
  name := h.name
  table := h.table
  schema := h.schema
  primaryKey := h.primaryKey
  columns := by
    rw [IndexedEntity.push, h.columns]
    rfl
  index field := by
    have hlength : t.columns.length = e.fields.length := by rw [← h.map_field, List.length_map]
    rw [Entity.fields_append, List.map_singleton, idxOf?_append_singleton, ← h.index,
      IndexedEntity.push]
    by_cases hf : field = c.field
    · subst hf
      rw [FieldMap.get?_insert_self, h.index, List.idxOf?_eq_none_iff.2 hc, hlength]
      simp
    · rw [FieldMap.get?_insert_of_ne hf, if_neg (Ne.symm hf), Option.or_none]

/-- The index finds `id` in front, so the column of `id` is the one that moves. -/
theorem Shows.withPrimaryKey (h : t.Shows e) (column : String) :
    (t.withPrimaryKey column).Shows (e.withPrimaryKey column) where
  name := h.name
  table := h.table
  schema := h.schema
  primaryKey := rfl
  columns := by
    have hid : t.index.get? idField = some 0 := by
      rw [h.index, Entity.fields, Entity.columns, List.map_cons, List.idxOf?_cons]
      rfl
    simp only [IndexedEntity.withPrimaryKey, hid, h.columns]
    rfl
  index := h.index

theorem Shows.withSchema (h : t.Shows e) (schema : String) :
    (t.withSchema schema).Shows (e.withSchema schema) where
  name := h.name
  table := h.table
  schema := rfl
  primaryKey := h.primaryKey
  columns := h.columns
  index := h.index

theorem Shows.addColumn_of_mem (h : t.Shows e) (hc : c.field ∈ e.fields) :
    t.addColumn c = (.error (.duplicateField e.name c.field), t) := by
  rw [addColumn, h.index, List.isSome_idxOf?.2 hc, if_pos rfl, h.name]

theorem Shows.addColumn_of_notMem (h : t.Shows e) (hc : c.field ∉ e.fields) :
    t.addColumn c = (.ok (), t.push c) := by
  rw [addColumn, h.index, List.idxOf?_eq_none_iff.2 hc]
  rfl

/-- A change comes to the same on both entities and leaves them showing the same. -/
theorem Shows.change (h : t.Shows e) (change : EntityChange) :
    (t.change change).1 = (e.change change).1 ∧
      (t.change change).2.Shows (e.change change).2 := by
  cases change with
  | primaryKey column => exact ⟨rfl, h.withPrimaryKey column⟩
  | schema name => exact ⟨rfl, h.withSchema name⟩
  | column c =>
    by_cases hc : c.field ∈ e.fields
    · rw [Entity.change_column_of_mem hc, IndexedEntity.change, h.addColumn_of_mem hc]
      exact ⟨rfl, h⟩
    · rw [Entity.change_column_of_notMem hc, IndexedEntity.change, h.addColumn_of_notMem hc]
      exact ⟨rfl, h.push hc⟩

/-! Runs of changes -/

theorem Shows.changeAll (h : t.Shows e) (changes : List EntityChange) :
    (t.changeAll changes).Shows (e.changeAll changes) := by
  induction changes generalizing t e with
  | nil => exact h
  | cons change changes ih => exact ih (h.change change).2

end IndexedEntity

namespace Entity

theorem name_change (e : Entity) (change : EntityChange) :
    (e.change change).2.name = e.name := by
  cases change with
  | column c =>
    by_cases hc : c.field ∈ e.fields
    · rw [change_column_of_mem hc]
    · rw [change_column_of_notMem hc]
  | _ => rfl

theorem primaryKey_change (e : Entity) (change : EntityChange) :
    (e.change change).2.primaryKey = change.key?.getD e.primaryKey := by
  cases change with
  | column c =>
    by_cases hc : c.field ∈ e.fields
    · rw [change_column_of_mem hc]
      rfl
    · rw [change_column_of_notMem hc]
      rfl
  | _ => rfl

theorem others_change (e : Entity) (change : EntityChange) :
    (e.change change).2.others = e.others ++ change.added (e.change change).1 := by
  cases change with
  | column c =>
    by_cases hc : c.field ∈ e.fields
    · rw [change_column_of_mem hc]
      exact (List.append_nil _).symm
    · rw [change_column_of_notMem hc]
      rfl
  | _ => exact (List.append_nil _).symm

theorem name_changeAll (e : Entity) (changes : List EntityChange) :
    (e.changeAll changes).name = e.name := by
  induction changes generalizing e with
  | nil => rfl
  | cons change changes ih => exact (ih _).trans (e.name_change change)

/-- The last key that was asked for is the one that stays. -/
theorem primaryKey_changeAll (e : Entity) (changes : List EntityChange) :
    (e.changeAll changes).primaryKey =
      (changes.filterMap EntityChange.key?).getLast?.getD e.primaryKey := by
  induction changes generalizing e with
  | nil => rfl
  | cons change changes ih =>
    rw [changeAll, List.foldl_cons, ← changeAll, ih, primaryKey_change, List.filterMap_cons]
    cases change.key? with
    | none => rfl
    | some key => rw [List.getLast?_cons]; rfl

end Entity

namespace IndexedEntity

variable {t : IndexedEntity} {e : Entity}

theorem Shows.others_changeAll (h : t.Shows e) (changes : List EntityChange) :
    (e.changeAll changes).others = e.others ++ t.accepted changes := by
  induction changes generalizing t e with
  | nil => exact (List.append_nil _).symm
  | cons change changes ih =>
    obtain ⟨houtcome, hshows⟩ := h.change change
    rw [Entity.changeAll, List.foldl_cons, ← Entity.changeAll, ih hshows, Entity.others_change,
      accepted, houtcome, List.append_assoc]

/-- The index, the columns and the key of an entity agree, and a column is refused exactly if its
field is there, with nothing changed. -/
structure InStep (name : String) (t : IndexedEntity) : Prop where
  nodup : (t.columns.map (·.field)).Nodup
  index : ∀ field, t.index.get? field = (t.columns.map (·.field)).idxOf? field
  column?_eq_some_iff : ∀ field c, t.column? field = some c ↔ c ∈ t.columns ∧ c.field = field
  column?_eq_none_iff : ∀ field, t.column? field = none ↔ field ∉ t.columns.map (·.field)
  refused_iff : ∀ c, t.addColumn c = (.error (.duplicateField name c.field), t) ↔
    c.field ∈ t.columns.map (·.field)
  accepted_iff : ∀ c, (t.addColumn c).1 = .ok () ↔ c.field ∉ t.columns.map (·.field)

theorem Shows.inStep (h : t.Shows e) : t.InStep e.name where
  nodup := by
    rw [h.map_field]
    exact e.nodup_fields
  index := by
    rw [h.map_field]
    exact h.index
  column?_eq_some_iff field c := by
    rw [h.column?, h.columns]
    exact Entity.column?_eq_some_iff
  column?_eq_none_iff field := by
    rw [h.column?, h.map_field]
    exact Entity.column?_eq_none_iff
  refused_iff c := by
    rw [h.map_field]
    by_cases hc : c.field ∈ e.fields
    · simp [h.addColumn_of_mem hc, hc]
    · simp [h.addColumn_of_notMem hc, hc]
  accepted_iff c := by
    rw [h.map_field]
    by_cases hc : c.field ∈ e.fields
    · simp [h.addColumn_of_mem hc, hc]
    · simp [h.addColumn_of_notMem hc, hc]

/-- Whatever is done to a new entity, and whatever of it is refused: its index and its columns
agree, the first column is that of `id`, stored in the key that was last asked for, and the others
are those that were accepted, in their order. The entity whose type forbids repeated fields comes
out of the same changes with the same columns. -/
theorem inStep_changeAll (name table : String) (changes : List EntityChange) :
    ((new name table).changeAll changes).InStep name ∧
    ((new name table).changeAll changes).columns =
      ⟨idField, ((new name table).changeAll changes).primaryKey, none⟩ ::
        (new name table).accepted changes ∧
    ((new name table).changeAll changes).primaryKey =
      (changes.filterMap EntityChange.key?).getLast?.getD idField ∧
    ((new name table).changeAll changes).Shows (Entity.changeAll { name, table } changes) := by
  have hnew := shows_new name table
  have hshows := hnew.changeAll changes
  refine ⟨?_, ?_, ?_, hshows⟩
  · have hstep := hshows.inStep
    rwa [Entity.name_changeAll] at hstep
  · rw [hshows.columns, hshows.primaryKey, Entity.columns, hnew.others_changeAll]
    rfl
  · rw [hshows.primaryKey, Entity.primaryKey_changeAll]

/-- A key that is moved after columns were added, and columns of fields that are there. -/
example : ((new "Person" "people").changeAll [.column ⟨"name", "full_name", none⟩,
    .column ⟨"id", "number", none⟩, .primaryKey "person_id", .column ⟨"name", "nick", none⟩,
    .column ⟨"boss", "boss_id", some "Person"⟩]).columns =
      [⟨"id", "person_id", none⟩, ⟨"name", "full_name", none⟩,
        ⟨"boss", "boss_id", some "Person"⟩] := by
  decide

end IndexedEntity

end EntityQuery
