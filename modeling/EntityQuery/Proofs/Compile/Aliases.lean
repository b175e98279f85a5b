import EntityQuery.Proofs.Compile.Run
import EntityQuery.Proofs.Semantics.Evaluation
import EntityQuery.Proofs.Staff
import Mathlib.Data.List.Nodup
import Mathlib.Data.List.TakeWhile

/-!
No alias is given twice. An alias is an abbreviation, which has no digit, followed by a number, so
both can be told from it; and tables that share an abbreviation are numbered from zero on, without
gaps. The tables of a query get their aliases in one such run.
-/

namespace EntityQuery

/-! Abbreviations have no digits -/

namespace Text

theorem isDigit_of_lt {c : Char} (h : 57 < c.toNat) : c.isDigit = false := by
  have hc : ¬ c.val ≤ 57 := by
    rw [UInt32.le_iff_toNat_le]
    exact Nat.not_le.2 h
  simp [Char.isDigit, hc]

/-- A number that is no character stands for none of the digits either. -/
theorem isDigit_ofNat {n : Nat} (h : 57 < n) : (Char.ofNat n).isDigit = false := by
  by_cases hv : n.isValidChar
  · apply isDigit_of_lt
    rw [Char.ofNat, dif_pos hv]
    exact h
  · rw [Char.ofNat, dif_neg hv]
    rfl

theorem isDigit_of_isAlphabetic {c : Char} (h : isAlphabetic c = true) : c.isDigit = false := by
  have hr : ∀ r ∈ alphabeticRanges, 57 < r.1 := by decide +kernel
  obtain ⟨r, hm, hle, -⟩ := Ranges.contains_iff.1 h
  exact isDigit_of_lt (Nat.lt_of_lt_of_le (hr r hm) hle)

theorem isDigit_of_mem_lowerChar {c x : Char} (h : isAlphabetic c = true)
    (hx : x ∈ lowerChar c) : x.isDigit = false := by
  have hexp : ∀ e ∈ lowerCase.expansions, ∀ n ∈ e.2, 57 < n := by decide +kernel
  have hrun : ∀ r ∈ lowerCase.runs, 57 < (r.first : Int) + r.shift := by decide +kernel
  unfold lowerChar CaseMap.apply at hx
  split at hx
  · rename_i cs hl
    obtain ⟨l, r, hm, -⟩ := List.lookup_eq_some_iff.1 hl
    obtain ⟨n, hn, rfl⟩ := List.mem_map.1 hx
    exact isDigit_ofNat (hexp (c.toNat, cs) (by simp [hm]) n hn)
  · split at hx
    · rename_i r hf
      rw [List.mem_singleton.1 hx]
      have hr := hrun r (List.mem_of_find?_eq_some hf)
      have hc := List.find?_some hf
      simp only [CaseRun.contains, Bool.and_eq_true, decide_eq_true_eq] at hc
      exact isDigit_ofNat (by omega)
    · rw [List.mem_singleton.1 hx]
      exact isDigit_of_isAlphabetic h

end Text

namespace Compile

theorem isAlphabetic_of_mem_initials {seen : Bool} {cs : List Char} {c : Char}
    (h : c ∈ initials seen cs) : Text.isAlphabetic c = true := by
  induction cs generalizing seen with
  | nil => cases h
  | cons x cs ih =>
    unfold initials at h
    split at h
    · exact ih h
    · split at h
      · rename_i ha
        rcases List.mem_cons.1 h with rfl | h
        · exact (Bool.and_eq_true_iff.1 ha).2
        · exact ih h
      · exact ih h

theorem isDigit_of_mem_abbreviation {table : String} {x : Char}
    (h : x ∈ (abbreviation table).toList) : x.isDigit = false := by
  simp only [abbreviation] at h
  split at h
  · rw [List.mem_singleton.1 h]
    rfl
  · rw [String.toList_ofList] at h
    obtain ⟨c, hc, hx⟩ := List.mem_flatMap.1 h
    exact Text.isDigit_of_mem_lowerChar (isAlphabetic_of_mem_initials hc) hx

/-! Numbered abbreviations -/

def numbered (abbr : String) (k : Nat) : String := abbr ++ toString k

theorem toList_numbered (abbr : String) (k : Nat) :
    (numbered abbr k).toList = abbr.toList ++ Nat.toDigits 10 k := by
  simp [numbered]

/-- What stands before the first digit is the abbreviation. -/
theorem takeWhile_numbered {abbr : String} (h : ∀ c ∈ abbr.toList, c.isDigit = false) (k : Nat) :
    (numbered abbr k).toList.takeWhile (!·.isDigit) = abbr.toList := by
  rw [toList_numbered, List.takeWhile_append_of_pos fun c hc => by rw [h c hc]; rfl]
  have hd : (Nat.toDigits 10 k).takeWhile (!·.isDigit) = [] := by
    rw [List.takeWhile_eq_nil_iff]
    intro hl
    rw [Nat.isDigit_of_mem_toDigits (by decide) (by decide) (List.get_mem _ _)]
    decide
  rw [hd, List.append_nil]

theorem numbered_inj {a b : String} (ha : ∀ c ∈ a.toList, c.isDigit = false)
    (hb : ∀ c ∈ b.toList, c.isDigit = false) {j k : Nat} (h : numbered a j = numbered b k) :
    a = b ∧ j = k := by
  have hab : a = b := by
    rw [← String.toList_inj, ← takeWhile_numbered ha j, h, takeWhile_numbered hb]
  subst hab
  have hl := congrArg String.toList h
  rw [toList_numbered, toList_numbered] at hl
  have hd := congrArg (fun ds => Nat.ofDigitChars 10 ds 0) (List.append_cancel_left hl)
  simp only [Nat.ofDigitChars_toDigits (by decide : 1 < 10) (by decide : 10 ≤ 10)] at hd
  exact ⟨rfl, hd⟩

/-! Runs of allocations -/

namespace Aliases

/-- Aliases for several tables in turn. -/
def allocateAll (a : Aliases) : List String → List String × Aliases
  | [] => ([], a)
  | table :: tables =>
    let own := a.allocate table
    let others := own.2.allocateAll tables
    (own.1 :: others.1, others.2)

theorem counter_empty (abbr : String) : counter {} abbr = 0 := rfl

theorem fst_allocate (a : Aliases) (table : String) :
    (a.allocate table).1 = numbered (abbreviation table) (a.counter (abbreviation table)) := rfl

/-- The counter of the table's abbreviation goes up by one, and the others stay. -/
theorem counter_allocate (a : Aliases) (table abbr : String) :
    (a.allocate table).2.counter abbr =
      a.counter abbr + [abbreviation table].count abbr := by
  simp only [allocate, counter]
  by_cases h : abbr = abbreviation table
  · subst h
    simp
  · rw [FieldMap.get?_insert_of_ne h, List.count_eq_zero.2 (by simpa using h), Nat.add_zero]

theorem length_allocateAll (a : Aliases) (tables : List String) :
    (a.allocateAll tables).1.length = tables.length := by
  induction tables generalizing a with
  | nil => rfl
  | cons table tables ih => rw [allocateAll, List.length_cons, ih, List.length_cons]

theorem allocateAll_append (a : Aliases) (xs ys : List String) :
    a.allocateAll (xs ++ ys) =
      ((a.allocateAll xs).1 ++ ((a.allocateAll xs).2.allocateAll ys).1,
        ((a.allocateAll xs).2.allocateAll ys).2) := by
  induction xs generalizing a with
  | nil => rfl
  | cons x xs ih => simp only [List.cons_append, allocateAll, ih]

/-- An alias carries the number of tables before it that share its abbreviation. -/
theorem getElem?_allocateAll (a : Aliases) {tables : List String} {i : Nat}
    (h : i < tables.length) :
    (a.allocateAll tables).1[i]? =
      some (numbered (abbreviation tables[i]) (a.counter (abbreviation tables[i]) +
        ((tables.take i).map abbreviation).count (abbreviation tables[i]))) := by
  induction tables generalizing a i with
  | nil => simp at h
  | cons table tables ih =>
    cases i with
    | zero => simp [allocateAll, fst_allocate]
    | succ i =>
      have hi : i < tables.length := Nat.lt_of_succ_lt_succ h
      simp only [allocateAll, List.getElem?_cons_succ, ih _ hi, List.getElem_cons_succ,
        counter_allocate, List.take_succ_cons, List.map_cons]
      rw [← List.singleton_append (l := (tables.take i).map abbreviation), List.count_append,
        Nat.add_assoc]

theorem le_counter_allocate (a : Aliases) (table abbr : String) :
    a.counter abbr ≤ (a.allocate table).2.counter abbr := by
  rw [counter_allocate]
  exact Nat.le_add_right _ _

/-- Numbers are taken from the counters on. -/
theorem mem_allocateAll {a : Aliases} {tables : List String} {x : String}
    (h : x ∈ (a.allocateAll tables).1) :
    ∃ table k, a.counter (abbreviation table) ≤ k ∧ x = numbered (abbreviation table) k := by
  induction tables generalizing a with
  | nil => cases h
  | cons table tables ih =>
    rcases List.mem_cons.1 h with rfl | h
    · exact ⟨table, _, Nat.le_refl _, rfl⟩
    · obtain ⟨t, k, hk, rfl⟩ := ih h
      exact ⟨t, k, Nat.le_trans (a.le_counter_allocate table _) hk, rfl⟩

theorem nodup_allocateAll (a : Aliases) (tables : List String) :
    (a.allocateAll tables).1.Nodup := by
  induction tables generalizing a with
  | nil => exact List.nodup_nil
  | cons table tables ih =>
    refine List.nodup_cons.2 ⟨fun hm => ?_, ih _⟩
    obtain ⟨t, k, hk, he⟩ := mem_allocateAll hm
    obtain ⟨hab, rfl⟩ := numbered_inj (fun c => isDigit_of_mem_abbreviation)
      (fun c => isDigit_of_mem_abbreviation) he
    -- the counter of the shared abbreviation has passed the number by then
    rw [counter_allocate, hab, List.count_singleton_self] at hk
    exact Nat.not_succ_le_self _ hk

end Aliases

/-! The aliases of a plan -/

namespace Plan

/-- The tables that a plan joins, in their order. -/
def tables {α : Type} : Plan α → List String
  | .done => []
  | .field _ rest => rest.tables
  | .join _ related _ below rest => related.table :: (below.tables ++ rest.tables)

theorem place_eq_allocateAll (p : Plan Unit) (al : Aliases) :
    ((p.place al).1.labels, (p.place al).2) = al.allocateAll p.tables := by
  induction p generalizing al with
  | done => rfl
  | field part rest ih => exact ih al
  | join part related l below rest ihb ihr =>
    simp only [place, labels, tables, Aliases.allocateAll, Aliases.allocateAll_append, ← ihb,
      ← ihr]

theorem tables_bindings_place (p : Plan Unit) (al : Aliases) :
    (p.place al).1.bindings.map (fun b => b.entity.table) = p.tables := by
  induction p generalizing al with
  | done => rfl
  | field part rest ih => exact ih al
  | join part related l below rest ihb ihr =>
    rw [place, bindings, List.map_cons, List.map_append, ihb, ihr, tables]

/-- The alias of the entity and those of the joins come from one run of allocations. -/
theorem labels_eq_allocateAll (p : Plan Unit) (e : Entity) :
    sourceName e :: (p.placed e).labels = (Aliases.allocateAll {} (e.table :: p.tables)).1 := by
  have h := congrArg Prod.fst (p.place_eq_allocateAll (Aliases.allocate {} e.table).2)
  exact congrArg (sourceName e :: ·) h

/-- The alias of the entity and those of the joins are all different. -/
theorem nodup_labels (p : Plan Unit) (e : Entity) :
    (sourceName e :: (p.placed e).labels).Nodup := by
  rw [labels_eq_allocateAll]
  exact Aliases.nodup_allocateAll _ _

end Plan

/-- The tables of a compiled query are those that its aliases are bound to. -/
theorem Plan.tables_query (p : Plan Unit) (e : Entity) (limit : UInt64)
    (offset : Option UInt64) :
    (addPage ((p.placed e).query e (sourceName e)) limit offset).tables =
      (⟨sourceName e, e⟩ :: (p.placed e).bindings).map Binding.table := by
  rw [Sql.Query.tables, source_addPage, joins_addPage, List.map_cons, ← Plan.tables_joins]
  rfl

/-- Names for tables: of the tables that share an abbreviation, each is named by it and by the
number of those before it, and no name is given twice. -/
structure Numbering (tables names : List String) : Prop where
  length_eq : names.length = tables.length
  numbered : ∀ (i : Nat) (h : i < tables.length), names[i]? =
    some (abbreviation tables[i] ++
      toString (((tables.take i).map abbreviation).count (abbreviation tables[i])))
  nodup : names.Nodup

theorem Aliases.numbering_allocateAll_empty (tables : List String) :
    Numbering tables (allocateAll {} tables).1 where
  length_eq := length_allocateAll {} tables
  numbered i h := by
    rw [getElem?_allocateAll {} h, counter_empty, Nat.zero_add]
    rfl
  nodup := nodup_allocateAll {} tables

end Compile

open Compile

/-- However many tables ask for an alias, they are numbered within their abbreviations and no two
aliases are alike; and so are the tables of every compiled query. -/
theorem Spec.numbering_toQuery :
    (∀ tables : List String, Numbering tables (Aliases.allocateAll {} tables).1) ∧
    ∀ (spec : Spec) (schema : Schema) (codec : Codec) (fallbackLimit : UInt64) (entity : String)
      (q : Sql.Query), spec.toQuery schema codec fallbackLimit entity = .ok q →
      q.source.isSome = true ∧ ∃ names, q.tables.map (·.asName) = names.map some ∧
        Numbering (q.tables.map (·.name)) names := by
  refine ⟨Aliases.numbering_allocateAll_empty, fun spec schema codec fallbackLimit entity q h => ?_⟩
  obtain ⟨e, p, limit, offset, -, -, -, -, rfl⟩ := Spec.exists_plan_of_toQuery h
  rw [Plan.tables_query]
  refine ⟨by rw [source_addPage]; rfl, (Aliases.allocateAll {} (e.table :: p.tables)).1, ?_, ?_⟩
  · rw [← Plan.labels_eq_allocateAll, ← Plan.asNames_bindings, List.map_map, List.map_cons,
      List.map_cons, List.map_map]
    rfl
  · rw [List.map_map, List.map_cons]
    have ht := p.tables_bindings_place (Aliases.allocate {} e.table).2
    rw [← ht]
    exact Aliases.numbering_allocateAll_empty _

theorem Staff.numbering_query :
    spec.toQuery schema .plain 10 "Person" = .ok query ∧
    query.source.isSome = true ∧ ∃ names, query.tables.map (·.asName) = names.map some ∧
      Numbering (query.tables.map (·.name)) names :=
  ⟨toQuery_spec, Spec.numbering_toQuery.2 _ _ _ _ _ _ toQuery_spec⟩

end EntityQuery
