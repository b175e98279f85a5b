import Mathlib.Data.List.Forall2

/-!
Computations that may fail: when they succeed, and with which result or error. Lists related element
by element, as the results of computations are to what they are computed from.
-/

namespace EntityQuery

variable {ε ε' α β γ : Type} {x : Except ε α}

theorem bind_eq_ok_iff {f : α → Except ε β} {b : β} :
    (x >>= f) = .ok b ↔ ∃ a, x = .ok a ∧ f a = .ok b := by
  cases x <;> simp [bind, Except.bind]

theorem bind_eq_error_iff {f : α → Except ε β} {e : ε} :
    (x >>= f) = .error e ↔ x = .error e ∨ ∃ a, x = .ok a ∧ f a = .error e := by
  cases x <;> simp [bind, Except.bind]

theorem eq_error_of_bind_pure {f : α → β} {e : ε} (h : (do return f (← x)) = Except.error e) :
    x = .error e := by
  cases x with
  | error e' =>
    cases h
    rfl
  | ok a => cases h

theorem mapError_eq_ok_iff {f : ε → ε'} {a : α} : x.mapError f = .ok a ↔ x = .ok a := by
  cases x <;> constructor <;> intro h <;> cases h
  rfl
  rfl

/-- What is done with a result alone decides nothing. -/
theorem exists_bind_pure_iff {f : α → β} :
    (∃ b, (do return f (← x)) = Except.ok b) ↔ ∃ a, x = .ok a := by
  cases x <;> simp [bind, Except.bind, pure, Except.pure]

theorem exists_bind_bind_pure_iff {y : Except ε β} {f : α → β → γ} :
    (∃ c, (do return f (← x) (← y)) = Except.ok c) ↔ (∃ a, x = .ok a) ∧ ∃ b, y = .ok b := by
  cases x <;> cases y <;> simp [bind, Except.bind, pure, Except.pure]

/-! Lists of computations -/

theorem mapM_congr {f g : α → Except ε β} {xs : List α} (h : ∀ x ∈ xs, f x = g x) :
    xs.mapM f = xs.mapM g := by
  induction xs with
  | nil => rfl
  | cons x xs ih =>
    obtain ⟨hx, hxs⟩ := List.forall_mem_cons.1 h
    rw [List.mapM_cons, List.mapM_cons, hx, ih hxs]

theorem exists_of_mapM_error {f : α → Except ε β} {xs : List α} {e : ε}
    (h : xs.mapM f = .error e) : ∃ x ∈ xs, f x = .error e := by
  induction xs with
  | nil => cases h
  | cons x xs ih =>
    rw [List.mapM_cons] at h
    rcases bind_eq_error_iff.1 h with hx | ⟨y, -, h⟩
    · exact ⟨x, List.mem_cons_self, hx⟩
    · obtain ⟨x', hx', hf⟩ := ih (eq_error_of_bind_pure h)
      exact ⟨x', List.mem_cons_of_mem x hx', hf⟩

theorem exists_of_mapM_ok {f : α → Except ε β} {xs : List α} {ys : List β}
    (h : xs.mapM f = .ok ys) : ∀ y ∈ ys, ∃ x ∈ xs, f x = .ok y := by
  induction xs generalizing ys with
  | nil =>
    cases h
    simp
  | cons x xs ih =>
    rw [List.mapM_cons] at h
    obtain ⟨y, hy, h⟩ := bind_eq_ok_iff.1 h
    obtain ⟨ys', hys, h⟩ := bind_eq_ok_iff.1 h
    cases h
    refine List.forall_mem_cons.2 ⟨⟨x, List.mem_cons_self, hy⟩, fun y' hy' => ?_⟩
    obtain ⟨x', hx', hf⟩ := ih hys y' hy'
    exact ⟨x', List.mem_cons_of_mem x hx', hf⟩

/-! Related lists -/

theorem exists_of_forall₂ {R : α → β → Prop} {xs : List α} {ys : List β}
    (h : List.Forall₂ R xs ys) {y : β} (hy : y ∈ ys) : ∃ x ∈ xs, R x y := by
  induction h with
  | nil => cases hy
  | cons hr _ ih =>
    rcases List.mem_cons.1 hy with rfl | hy
    · exact ⟨_, List.mem_cons_self, hr⟩
    · obtain ⟨x, hx, hr⟩ := ih hy
      exact ⟨x, List.mem_cons_of_mem _ hx, hr⟩

/-- Nothing stands twice on the right, if it would come of what stands twice on the left. -/
theorem nodup_map_of_forall₂ {R : α → β → Prop} {f : α → γ} {g : β → ε} {xs : List α}
    {ys : List β} (h : List.Forall₂ R xs ys) (hxs : (xs.map f).Nodup)
    (hinj : ∀ x x' y y', R x y → R x' y' → g y = g y' → f x = f x') : (ys.map g).Nodup := by
  induction h with
  | nil => exact List.nodup_nil
  | @cons x y xs ys hr hrs ih =>
    obtain ⟨hx, hxs⟩ := List.nodup_cons.1 hxs
    refine List.nodup_cons.2 ⟨fun hm => hx ?_, ih hxs⟩
    obtain ⟨y', hy', heq⟩ := List.mem_map.1 hm
    obtain ⟨x', hx', hr'⟩ := exists_of_forall₂ hrs hy'
    exact List.mem_map.2 ⟨x', hx', hinj x' x y' y hr' hr heq⟩

end EntityQuery
