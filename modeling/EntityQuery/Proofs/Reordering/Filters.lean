import EntityQuery.Proofs.Compile.Scope
import EntityQuery.Proofs.Outcome
import EntityQuery.Spec.Basic
import Mathlib.Data.List.Perm.Basic

/-!
Filters whose entries stand in another order, at any depth. Such filters ask the same of each field,
up to the order of nested filters, and a scope names the same fields with either of them, though not
in the same order.
-/

namespace EntityQuery

/-- The entries of two filters that differ in their order, and in that of nested filters. -/
inductive Filter.Reordered : List (String × Clause) → List (String × Clause) → Prop
  | nil : Reordered [] []
  | cons (entry : String × Clause) {es es' : List (String × Clause)} (h : Reordered es es') :
    Reordered (entry :: es) (entry :: es')
  | nested (field : String) {bs bs' es es' : List (String × Clause)} (hb : Reordered bs bs')
    (h : Reordered es es') :
    Reordered ((field, .nested ⟨bs⟩) :: es) ((field, .nested ⟨bs'⟩) :: es')
  | swap (x y : String × Clause) (es : List (String × Clause)) :
    Reordered (y :: x :: es) (x :: y :: es)
  | trans {es es' es'' : List (String × Clause)} (h : Reordered es es')
    (h' : Reordered es' es'') : Reordered es es''

/-- The clauses are equal, or nested filters that differ in the order of their entries. -/
inductive Clause.Reordered : Clause → Clause → Prop
  | refl (c : Clause) : Reordered c c
  | nested {bs bs' : List (String × Clause)} (h : Filter.Reordered bs bs') :
    Reordered (.nested ⟨bs⟩) (.nested ⟨bs'⟩)

/-- The specs differ at most in the order of the entries of their filters. -/
structure Spec.Reordered (spec spec' : Spec) : Prop where
  filter : Filter.Reordered spec.filter.entries spec'.filter.entries
  order : spec'.order = spec.order
  limit : spec'.limit = spec.limit
  offset : spec'.offset = spec.offset

theorem Filter.Reordered.refl (es : List (String × Clause)) : Reordered es es := by
  induction es with
  | nil => exact .nil
  | cons e es ih => exact .cons e ih

theorem Filter.Reordered.symm {es es' : List (String × Clause)} (h : Reordered es es') :
    Reordered es' es := by
  induction h with
  | nil => exact .nil
  | cons entry _ ih => exact .cons entry ih
  | nested field _ _ ihb ih => exact .nested field ihb ih
  | swap x y es => exact .swap y x es
  | trans _ _ ih ih' => exact .trans ih' ih

theorem Spec.Reordered.symm {spec spec' : Spec} (h : spec.Reordered spec') :
    spec'.Reordered spec :=
  ⟨h.filter.symm, h.order.symm, h.limit.symm, h.offset.symm⟩

theorem Clause.Reordered.trans {c c' c'' : Clause} (h : c.Reordered c') (h' : c'.Reordered c'') :
    c.Reordered c'' := by
  cases h with
  | refl => exact h'
  | nested h =>
    cases h' with
    | refl => exact .nested h
    | nested h' => exact .nested (h.trans h')

theorem Clause.Reordered.filterBelow {c c' : Clause} (h : c.Reordered c') :
    Filter.Reordered c.filterBelow.entries c'.filterBelow.entries := by
  cases h with
  | refl => exact .refl _
  | nested h => exact h

/-! Entries -/

/-- Entries of the same field that differ at most in the order of nested filters. -/
def Filter.EntryReordered (x y : String × Clause) : Prop := x.1 = y.1 ∧ x.2.Reordered y.2

namespace Filter.Reordered

variable {es es' : List (String × Clause)}

theorem entries_trans {mid : List (String × Clause)} (h : List.Forall₂ EntryReordered es mid)
    (h' : List.Forall₂ EntryReordered mid es') : List.Forall₂ EntryReordered es es' := by
  induction h generalizing es' with
  | nil => exact h'
  | cons hx _ ih =>
    cases h' with
    | cons hy h' => exact .cons ⟨hx.1.trans hy.1, hx.2.trans hy.2⟩ (ih h')

/-- A reordering first reorders nested filters and then permutes the entries. -/
theorem exists_perm (h : Reordered es es') :
    ∃ mid, List.Forall₂ EntryReordered es mid ∧ mid.Perm es' := by
  induction h with
  | nil => exact ⟨[], .nil, .nil⟩
  | cons entry _ ih =>
    obtain ⟨mid, hf, hp⟩ := ih
    exact ⟨entry :: mid, .cons ⟨rfl, .refl _⟩ hf, hp.cons entry⟩
  | @nested field bs bs' es es' hb _ _ ih =>
    obtain ⟨mid, hf, hp⟩ := ih
    exact ⟨(field, .nested ⟨bs'⟩) :: mid, .cons ⟨rfl, .nested hb⟩ hf, hp.cons _⟩
  | swap x y es =>
    exact ⟨y :: x :: es, List.forall₂_same.2 fun e _ => ⟨rfl, .refl _⟩, .swap x y es⟩
  | trans _ _ ih ih' =>
    obtain ⟨mid, hf, hp⟩ := ih
    obtain ⟨mid', hf', hp'⟩ := ih'
    -- the permutation comes after what is done to nested filters in the second step
    obtain ⟨mid'', hf'', hp''⟩ := List.perm_comp_forall₂ hp hf'
    exact ⟨mid'', entries_trans hf hf'', hp''.trans hp'⟩

theorem entries_map_fst {mid : List (String × Clause)} (h : List.Forall₂ EntryReordered es mid) :
    es.map (·.1) = mid.map (·.1) := by
  induction h with
  | nil => rfl
  | cons hx _ ih => rw [List.map_cons, List.map_cons, hx.1, ih]

theorem perm_fst (h : Reordered es es') : (es.map (·.1)).Perm (es'.map (·.1)) := by
  obtain ⟨mid, hf, hp⟩ := h.exists_perm
  rw [entries_map_fst hf]
  exact hp.map _

theorem distinct {f f' : Filter} (h : Reordered f.entries f'.entries) (hf : f.Distinct) :
    f'.Distinct := h.perm_fst.nodup_iff.1 hf

theorem entries_lookup {mid : List (String × Clause)} (h : List.Forall₂ EntryReordered es mid)
    (field : String) :
    Clause.Reordered ((es.lookup field).getD .absent) ((mid.lookup field).getD .absent) := by
  induction h with
  | nil => exact .refl _
  | @cons x y _ _ hx _ ih =>
    rw [List.lookup_cons, List.lookup_cons, ← hx.1]
    cases field == x.1 with
    | true => exact hx.2
    | false => exact ih

/-- What is asked of a field is the same, up to the order of a nested filter. -/
theorem get? {f f' : Filter} (h : Reordered f.entries f'.entries) (hf : f.Distinct)
    (field : String) :
    Clause.Reordered ((f.get? field).getD .absent) ((f'.get? field).getD .absent) := by
  obtain ⟨mid, hmid, hp⟩ := h.exists_perm
  rw [← FieldMap.get?_eq_of_perm (m := ⟨mid⟩) hp (h.distinct hf)]
  exact entries_lookup hmid field

end Filter.Reordered

namespace Compile

/-! Scopes -/

/-- What two scopes ask of the same field, up to the order of a nested filter. -/
structure Named.Reordered (n n' : Named) : Prop where
  field : n'.field = n.field
  order : n'.order = n.order
  clause : n.clause.Reordered n'.clause

theorem Named.Reordered.filterBelow {n n' : Named} (h : n.Reordered n') :
    Filter.Reordered n.below.filter.entries n'.below.filter.entries := h.clause.filterBelow

theorem Named.Reordered.orderBelow {n n' : Named} (h : n.Reordered n') :
    n'.below.order = n.below.order := congrArg SortClause.orderBelow h.order

/-- With a reordered filter, a scope names the same fields, those of the ordering in their order. -/
theorem Scope.exists_named_perm {f f' : Filter} (h : Filter.Reordered f.entries f'.entries)
    (hf : f.Distinct) (order : SortOrder) :
    ∃ ns, List.Forall₂ Named.Reordered (Scope.named ⟨f, order⟩) ns ∧
      ns.Perm (Scope.named ⟨f', order⟩) := by
  obtain ⟨mid, hmid, hp⟩ := h.exists_perm
  refine ⟨order.entries.map (fun o => ⟨o.1, (f'.get? o.1).getD .absent, some o.2⟩) ++
    (mid.filter fun x => x.1 ∉ order.fields).map fun x => ⟨x.1, x.2, none⟩, ?_, ?_⟩
  · refine List.rel_append ?_ ?_
    · rw [List.forall₂_map_left_iff, List.forall₂_map_right_iff]
      exact List.forall₂_same.2 fun o _ => ⟨rfl, rfl, h.get? hf o.1⟩
    · rw [List.forall₂_map_left_iff, List.forall₂_map_right_iff]
      have hfilter : List.Forall₂ Filter.EntryReordered
          (f.entries.filter fun x => x.1 ∉ order.fields)
          (mid.filter fun x => x.1 ∉ order.fields) :=
        List.rel_filter (fun x y hx => by simp [hx.1]) hmid
      exact hfilter.imp fun x y hx => ⟨hx.1.symm, rfl, hx.2⟩
  · exact ((hp.filter _).map _).append_left _

/-- Reordered filters name each field once if one of them does. -/
theorem Scope.Distinct.reordered {s : Scope} (hs : s.Distinct) {f : Filter}
    (h : Filter.Reordered s.filter.entries f.entries) : Scope.Distinct ⟨f, s.order⟩ := by
  induction hs generalizing f with
  | @intro s hf ho hb ih =>
    refine .intro (h.distinct hf) ho fun n' hn' => ?_
    obtain ⟨ns, hns, hp⟩ := exists_named_perm h hf s.order
    obtain ⟨n, hn, hr⟩ := exists_of_forall₂ hns (hp.mem_iff.2 hn')
    have hbelow := ih n hn hr.filterBelow
    rw [← hr.orderBelow] at hbelow
    exact hbelow

end Compile

end EntityQuery
