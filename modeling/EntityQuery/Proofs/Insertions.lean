import EntityQuery.FieldMap
import Mathlib.Data.Finset.Card

/-!
Maps and the insertions that they were made by. An insertion adds the name of its field at the end
if the name is new, and changes no place if it is not: so the fields of a map stand in the order of
their first insertions, each with the value that was inserted last.
-/

namespace EntityQuery

/-! Names in the order of their first occurrences -/

/-- The list has just these names, in the order in which they first occur. The order is strict, so
no name stands twice. -/
structure ListsFirsts (names listed : List String) : Prop where
  mem_iff (name : String) : name ∈ listed ↔ name ∈ names
  sorted : listed.Pairwise fun x y => names.idxOf x < names.idxOf y

/-- Adds a name at the end, if it is new. -/
def addNew (names : List String) (name : String) : List String :=
  if name ∈ names then names else names ++ [name]

/-- The names, each where it first occurs. -/
def firsts (names : List String) : List String := names.foldl addNew []

theorem firsts_append_singleton (names : List String) (name : String) :
    firsts (names ++ [name]) = addNew (firsts names) name := by
  rw [firsts, List.foldl_append]
  rfl

namespace ListsFirsts

variable {names listed : List String}

theorem nodup (h : ListsFirsts names listed) : listed.Nodup := by
  refine h.sorted.imp ?_
  intro x y hlt heq
  rw [heq] at hlt
  omega

/-- One more name moves no first occurrence, and its own comes last if it is new. -/
theorem addNew (h : ListsFirsts names listed) (name : String) :
    ListsFirsts (names ++ [name]) (addNew listed name) := by
  have hsorted : listed.Pairwise fun x y =>
      (names ++ [name]).idxOf x < (names ++ [name]).idxOf y := by
    refine h.sorted.imp_of_mem ?_
    intro x y hx hy hlt
    rw [h.mem_iff] at hx hy
    rwa [List.idxOf_append_of_mem hx, List.idxOf_append_of_mem hy]
  by_cases hm : name ∈ listed
  · rw [EntityQuery.addNew, if_pos hm]
    refine ⟨?_, hsorted⟩
    intro x
    rw [List.mem_append, List.mem_singleton, h.mem_iff]
    constructor
    · exact .inl
    · rintro (hx | rfl)
      · exact hx
      · exact (h.mem_iff x).1 hm
  · rw [EntityQuery.addNew, if_neg hm]
    constructor
    · intro x
      rw [List.mem_append, List.mem_append, h.mem_iff]
    · refine List.pairwise_append.2 ⟨hsorted, List.pairwise_singleton _ _, ?_⟩
      intro x hx y hy
      rw [List.mem_singleton] at hy
      subst hy
      rw [h.mem_iff] at hx hm
      rw [List.idxOf_append_of_mem hx, List.idxOf_append_of_notMem hm, List.idxOf_cons_self]
      exact List.idxOf_lt_length_of_mem hx

end ListsFirsts

theorem listsFirsts_firsts (names : List String) : ListsFirsts names (firsts names) := by
  induction names using List.reverseRecOn with
  | nil => exact ⟨fun _ => Iff.rfl, .nil⟩
  | append_singleton names name ih =>
    rw [firsts_append_singleton]
    exact ih.addNew name

theorem foldl_addNew {ys : List String} (hys : ys.Nodup) (xs : List String) :
    ys.foldl addNew xs = xs ++ ys.filter fun y => y ∉ xs := by
  induction ys using List.reverseRecOn with
  | nil => simp
  | append_singleton ys y ih =>
    obtain ⟨hnodup, -, hne⟩ := List.nodup_append.1 hys
    have hy : y ∉ ys := fun hm => hne y hm y (List.mem_singleton.2 rfl) rfl
    rw [List.foldl_append, ih hnodup, List.filter_append]
    by_cases hx : y ∈ xs <;> simp [addNew, hx, hy]

/-- Of two lists without repeats, the second one adds what the first one lacks. -/
theorem firsts_append {xs ys : List String} (hxs : xs.Nodup) (hys : ys.Nodup) :
    firsts (xs ++ ys) = xs ++ ys.filter fun y => y ∉ xs := by
  have hfirst : xs.foldl addNew [] = xs := by simp [foldl_addNew hxs]
  rw [firsts, List.foldl_append, hfirst, foldl_addNew hys]

/-! Maps made by insertions -/

namespace FieldMap

variable {α : Type} {insertions : List (String × α)} {field : String} {a : α}

/-- The last insertion of the field is of this value. -/
def LastInserted (insertions : List (String × α)) (field : String) (a : α) : Prop :=
  ∃ before after, insertions = before ++ (field, a) :: after ∧ field ∉ after.map (·.1)

/-- What a map tells of the insertions that it was made by: each field once, in the order of the
first insertions, with the value that was inserted last; and the number of different fields. -/
structure Tells (m : FieldMap α) (insertions : List (String × α)) : Prop where
  fields : ListsFirsts (insertions.map (·.1)) m.fields
  nodup : m.fields.Nodup
  get?_eq_some_iff (field : String) (a : α) :
    m.get? field = some a ↔ LastInserted insertions field a
  get?_eq_none_iff (field : String) : m.get? field = none ↔ field ∉ insertions.map (·.1)
  size_eq : m.size = (insertions.map (·.1)).toFinset.card

theorem ofList_append_singleton (insertions : List (String × α)) (e : String × α) :
    ofList (insertions ++ [e]) = (ofList insertions).insert e.1 e.2 := by
  rw [ofList, List.foldl_append]
  rfl

theorem fields_ofList (insertions : List (String × α)) :
    (ofList insertions).fields = firsts (insertions.map (·.1)) := by
  induction insertions using List.reverseRecOn with
  | nil => rfl
  | append_singleton insertions e ih =>
    rw [ofList_append_singleton, fields_insert, ih, List.map_append, List.map_singleton,
      firsts_append_singleton]
    rfl

/-- A look-up goes through the insertions from the last one back. -/
theorem get?_ofList (insertions : List (String × α)) (field : String) :
    (ofList insertions).get? field = insertions.reverse.lookup field := by
  induction insertions using List.reverseRecOn with
  | nil => rfl
  | append_singleton insertions e ih =>
    obtain ⟨f, a⟩ := e
    rw [ofList_append_singleton, List.reverse_append, List.reverse_singleton,
      List.singleton_append, List.lookup_cons]
    by_cases h : field = f
    · rw [h, get?_insert_self, beq_self_eq_true]
    · rw [get?_insert_of_ne h, ih, beq_eq_false_iff_ne.2 h]

theorem lookup_reverse_eq_some_iff :
    insertions.reverse.lookup field = some a ↔ LastInserted insertions field a := by
  rw [List.lookup_eq_some_iff]
  constructor
  · rintro ⟨after, before, hsplit, hne⟩
    refine ⟨before.reverse, after.reverse, by simpa using congrArg List.reverse hsplit, ?_⟩
    intro hm
    obtain ⟨e, he, rfl⟩ := List.mem_map.1 hm
    simpa using hne e (List.mem_reverse.1 he)
  · rintro ⟨before, after, rfl, hnot⟩
    refine ⟨after.reverse, before.reverse, by simp, ?_⟩
    intro e he
    have hm : e.1 ∈ after.map (·.1) := List.mem_map_of_mem (List.mem_reverse.1 he)
    have hne : field ≠ e.1 := fun heq => hnot (heq ▸ hm)
    simpa using hne

theorem tells_ofList (insertions : List (String × α)) : (ofList insertions).Tells insertions := by
  have hfirsts : ListsFirsts (insertions.map (·.1)) (ofList insertions).fields := by
    rw [fields_ofList]
    exact listsFirsts_firsts _
  refine ⟨hfirsts, hfirsts.nodup, ?_, ?_, ?_⟩
  · intro field a
    rw [get?_ofList, lookup_reverse_eq_some_iff]
  · intro field
    rw [FieldMap.get?_eq_none_iff, hfirsts.mem_iff]
  · have hsame : (ofList insertions).fields.toFinset = (insertions.map (·.1)).toFinset := by
      ext name
      rw [List.mem_toFinset, List.mem_toFinset, hfirsts.mem_iff]
    rw [← hsame, List.toFinset_card_of_nodup hfirsts.nodup, size, FieldMap.fields, List.length_map]

example : (ofList [("age", 30), ("name", 1), ("age", 40)]).entries =
    [("age", 40), ("name", 1)] := by
  decide

end FieldMap

end EntityQuery
