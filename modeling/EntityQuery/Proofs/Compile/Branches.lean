import EntityQuery.Proofs.Compile.Plan
import EntityQuery.Proofs.Outcome
import Mathlib.Data.List.Forall2

/-!
Plans by their branches. Each field of a scope gives one branch, whatever the other fields are: what
it adds by itself, and the plan below the table that it joins, if it joins one. The plan of the
scope is made of the branches of its fields, in their order.
-/

namespace EntityQuery.Compile

/-- What a field adds to a plan. -/
structure Branch where
  part : Part
  /-- The entity whose table is joined, and the plan below it. -/
  joined : Option (Entity × Plan Unit)

/-- The plan with this branch before the others. -/
def Branch.before : Branch → Plan Unit → Plan Unit
  | ⟨part, none⟩, rest => .field part rest
  | ⟨part, some (related, below)⟩, rest => .join part related () below rest

def Plan.ofBranches : List Branch → Plan Unit
  | [] => .done
  | b :: bs => b.before (ofBranches bs)

/-- The branch of a field. -/
def Named.branch (schema : Schema) (codec : Codec) (e : Entity) (n : Named) :
    Except CompileError Branch := do
  match ← planField schema codec e n.field n.clause n.order with
  | (part, none) => return ⟨part, none⟩
  | (part, some related) =>
    return ⟨part, some (related, ← plan schema codec related n.below)⟩

section

variable {schema : Schema} {codec : Codec} {e : Entity}

/-- Fields are planned one after another. -/
theorem planAll_cons_toVisit (n : Named) (vs : List Visit) :
    planAll schema codec e (n.toVisit :: vs) = do
      let b ← n.branch schema codec e
      return b.before (← planAll schema codec e vs) := by
  rw [Named.toVisit, planAll, Named.branch]
  cases planField schema codec e n.field n.clause n.order with
  | error err => rfl
  | ok r =>
    obtain ⟨part, - | related⟩ := r
    · rfl
    · simp only [plan, bind, Except.bind]
      cases planAll schema codec related (Visit.ofScope n.below.filter n.below.order) <;> rfl

theorem planAll_eq_ok_iff {ns : List Named} {p : Plan Unit} :
    planAll schema codec e (ns.map Named.toVisit) = .ok p ↔
      ∃ bs, List.Forall₂ (fun n b => n.branch schema codec e = .ok b) ns bs ∧
        p = Plan.ofBranches bs := by
  induction ns generalizing p with
  | nil =>
    rw [List.map_nil, planAll]
    constructor
    · rintro h
      cases h
      exact ⟨[], .nil, rfl⟩
    · rintro ⟨bs, hbs, rfl⟩
      cases hbs
      rfl
  | cons n ns ih =>
    rw [List.map_cons, planAll_cons_toVisit, bind_eq_ok_iff]
    constructor
    · rintro ⟨b, hb, h⟩
      obtain ⟨rest, hr, h⟩ := bind_eq_ok_iff.1 h
      cases h
      obtain ⟨bs, hbs, rfl⟩ := ih.1 hr
      exact ⟨b :: bs, .cons hb hbs, rfl⟩
    · rintro ⟨bs, hbs, rfl⟩
      cases hbs with
      | @cons _ b _ bs hb hbs =>
        refine ⟨b, hb, bind_eq_ok_iff.2 ⟨Plan.ofBranches bs, ih.2 ⟨bs, hbs, rfl⟩, rfl⟩⟩

/-- A scope is planned exactly if each of its fields has a branch, and its plan is made of them. -/
theorem plan_eq_ok_iff {s : Scope} {p : Plan Unit} :
    plan schema codec e s = .ok p ↔
      ∃ bs, List.Forall₂ (fun n b => n.branch schema codec e = .ok b) s.named bs ∧
        p = Plan.ofBranches bs := by
  rw [plan, Visit.ofScope_eq_map, planAll_eq_ok_iff]

end

end EntityQuery.Compile
