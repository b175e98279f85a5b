/-!
Maps from field names to values that remember the order in which fields were first inserted. A
later insertion of a field replaces its value and leaves it in its place.
-/

namespace EntityQuery

structure FieldMap (α : Type) where
  entries : List (String × α)
deriving DecidableEq

namespace FieldMap

variable {α β : Type}

def empty : FieldMap α := ⟨[]⟩

def fields (m : FieldMap α) : List String := m.entries.map (·.1)

def size (m : FieldMap α) : Nat := m.entries.length

def isEmpty (m : FieldMap α) : Bool := m.entries.isEmpty

def get? (m : FieldMap α) (field : String) : Option α := m.entries.lookup field

def insertEntry (field : String) (a : α) : List (String × α) → List (String × α)
  | [] => [(field, a)]
  | (f, b) :: r => if f = field then (f, a) :: r else (f, b) :: insertEntry field a r

def insert (m : FieldMap α) (field : String) (a : α) : FieldMap α :=
  ⟨insertEntry field a m.entries⟩

/-- The entries inserted in turn. -/
def ofList (es : List (String × α)) : FieldMap α :=
  es.foldl (fun m e => m.insert e.1 e.2) empty

/-- No field stands twice. Every map made by insertions is so. -/
def Distinct (m : FieldMap α) : Prop := m.fields.Nodup

theorem lookup_insertEntry_self (field : String) (a : α) (es : List (String × α)) :
    (insertEntry field a es).lookup field = some a := by
  induction es with
  | nil => simp [insertEntry]
  | cons e es ih =>
    obtain ⟨f, b⟩ := e
    by_cases h : f = field
    · simp [insertEntry, h]
    · have hne : (field == f) = false := by simpa using Ne.symm h
      simp [insertEntry, h, List.lookup_cons, hne, ih]

theorem lookup_insertEntry_of_ne {field other : String} (h : other ≠ field) (a : α)
    (es : List (String × α)) : (insertEntry field a es).lookup other = es.lookup other := by
  have hne : (other == field) = false := by simpa using h
  induction es with
  | nil => simp [insertEntry, List.lookup_cons, hne]
  | cons e es ih =>
    obtain ⟨f, b⟩ := e
    by_cases hf : f = field
    · simp [insertEntry, List.lookup_cons, hf, hne]
    · simp only [insertEntry, hf, if_false, List.lookup_cons, ih]

theorem map_fst_insertEntry (field : String) (a : α) (es : List (String × α)) :
    (insertEntry field a es).map (·.1) =
      if field ∈ es.map (·.1) then es.map (·.1) else es.map (·.1) ++ [field] := by
  induction es with
  | nil => simp [insertEntry]
  | cons e es ih =>
    obtain ⟨f, b⟩ := e
    by_cases hf : f = field
    · simp [insertEntry, hf]
    · have hne : ¬ field = f := Ne.symm hf
      simp only [insertEntry, hf, if_false, List.map_cons, ih, List.mem_cons, hne, false_or]
      split <;> simp

theorem insertEntry_of_notMem {field : String} {es : List (String × α)}
    (h : field ∉ es.map (·.1)) (a : α) : insertEntry field a es = es ++ [(field, a)] := by
  induction es with
  | nil => rfl
  | cons e es ih =>
    obtain ⟨f, b⟩ := e
    rw [List.map_cons, List.mem_cons, not_or] at h
    rw [insertEntry, if_neg (Ne.symm h.1), ih h.2, List.cons_append]

@[simp] theorem get?_empty (field : String) : (empty : FieldMap α).get? field = none := rfl

@[simp] theorem get?_insert_self (m : FieldMap α) (field : String) (a : α) :
    (m.insert field a).get? field = some a := lookup_insertEntry_self field a m.entries

theorem get?_insert_of_ne {field other : String} (h : other ≠ field) (m : FieldMap α) (a : α) :
    (m.insert field a).get? other = m.get? other := lookup_insertEntry_of_ne h a m.entries

theorem fields_insert (m : FieldMap α) (field : String) (a : α) :
    (m.insert field a).fields =
      if field ∈ m.fields then m.fields else m.fields ++ [field] :=
  map_fst_insertEntry field a m.entries

theorem distinct_congr {m : FieldMap α} {m' : FieldMap β} (h : m.fields = m'.fields) :
    m.Distinct ↔ m'.Distinct := by
  rw [Distinct, Distinct, h]

theorem distinct_empty : (empty : FieldMap α).Distinct := List.nodup_nil

theorem Distinct.insert {m : FieldMap α} (h : m.Distinct) (field : String) (a : α) :
    (m.insert field a).Distinct := by
  unfold Distinct at *
  rw [fields_insert]
  split
  · exact h
  · rename_i hf
    rw [List.nodup_append]
    refine ⟨h, by simp, fun x hx y hy => ?_⟩
    rw [List.mem_singleton.1 hy]
    exact fun e => hf (e ▸ hx)

theorem distinct_ofList (es : List (String × α)) : (ofList es).Distinct := by
  suffices ∀ m : FieldMap α, m.Distinct →
      (es.foldl (fun m e => m.insert e.1 e.2) m).Distinct from this _ distinct_empty
  induction es with
  | nil => exact fun m h => h
  | cons e es ih => exact fun m h => ih _ (h.insert e.1 e.2)

/-- Entries of distinct fields stay as they are. -/
theorem ofList_of_nodup {es : List (String × α)} (h : (es.map (·.1)).Nodup) : ofList es = ⟨es⟩ := by
  suffices ∀ m : FieldMap α, ((m.entries ++ es).map (·.1)).Nodup →
      es.foldl (fun m e => m.insert e.1 e.2) m = ⟨m.entries ++ es⟩ from this empty h
  clear h
  induction es with
  | nil => simp
  | cons e es ih =>
    intro m hm
    have hf : e.1 ∉ m.entries.map (·.1) := fun he => by
      rw [List.map_append, List.nodup_append] at hm
      exact hm.2.2 _ he e.1 (by simp) rfl
    rw [List.append_cons] at hm ⊢
    rw [List.foldl_cons, insert, insertEntry_of_notMem hf]
    exact ih _ hm

theorem mem_of_mem_insertEntry {field : String} {a : α} {es : List (String × α)} {x : String × α}
    (h : x ∈ insertEntry field a es) : x = (field, a) ∨ x ∈ es := by
  induction es with
  | nil => exact .inl (List.mem_singleton.1 h)
  | cons e es ih =>
    obtain ⟨f, b⟩ := e
    unfold insertEntry at h
    split at h
    · rename_i hf
      rw [hf] at h
      exact (List.mem_cons.1 h).imp_right (List.mem_cons_of_mem _)
    · rcases List.mem_cons.1 h with rfl | h
      · exact .inr List.mem_cons_self
      · exact (ih h).imp_right (List.mem_cons_of_mem _)

/-- Insertions make up no entries of their own. -/
theorem mem_of_mem_ofList {es : List (String × α)} {x : String × α}
    (h : x ∈ (ofList es).entries) : x ∈ es := by
  suffices ∀ m : FieldMap α, x ∈ (es.foldl (fun m e => m.insert e.1 e.2) m).entries →
      x ∈ m.entries ∨ x ∈ es from (this empty h).resolve_left List.not_mem_nil
  clear h
  induction es with
  | nil => exact fun m h => .inl h
  | cons e es ih =>
    intro m h
    rcases ih _ h with h | h
    · rcases mem_of_mem_insertEntry h with rfl | h
      · exact .inr List.mem_cons_self
      · exact .inl h
    · exact .inr (List.mem_cons_of_mem e h)

section

variable {m : FieldMap α} {field : String} {a : α}

instance : Decidable m.Distinct := inferInstanceAs (Decidable (List.Nodup _))

theorem mem_of_get? (h : m.get? field = some a) : (field, a) ∈ m.entries := by
  obtain ⟨l, r, hm, -⟩ := List.lookup_eq_some_iff.1 h
  simp [hm]

theorem get?_of_mem (h : m.Distinct) (hm : (field, a) ∈ m.entries) : m.get? field = some a := by
  obtain ⟨l, r, he⟩ := List.append_of_mem hm
  refine List.lookup_eq_some_iff.2 ⟨l, r, he, fun x hx => ?_⟩
  unfold Distinct fields at h
  rw [he, List.map_append, List.map_cons] at h
  have hx' : x.1 ∈ l.map (·.1) := List.mem_map_of_mem hx
  have hd := (List.nodup_append.1 h).2.2 _ hx' field List.mem_cons_self
  simpa using Ne.symm hd

theorem get?_eq_none_iff : m.get? field = none ↔ field ∉ m.fields := by
  rw [get?, List.lookup_eq_none_iff, fields, List.mem_map]
  simp only [bne_iff_ne, ne_eq, not_exists, not_and]
  exact ⟨fun h e he hf => h e he hf.symm, fun h e he hf => h e he hf.symm⟩

/-- The order of the entries does not matter to a look-up. -/
theorem get?_eq_of_perm {m' : FieldMap α} (hp : m.entries.Perm m'.entries) (h : m'.Distinct)
    (field : String) : m.get? field = m'.get? field := by
  cases ha : m.get? field with
  | some a => exact (get?_of_mem h (hp.mem_iff.1 (mem_of_get? ha))).symm
  | none =>
    rw [get?_eq_none_iff] at ha
    refine (get?_eq_none_iff.2 fun hm => ha ?_).symm
    exact (hp.map _).mem_iff.2 hm

end

end FieldMap

end EntityQuery
