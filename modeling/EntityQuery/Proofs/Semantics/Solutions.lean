import EntityQuery.Proofs.Compile.Aliases
import EntityQuery.Proofs.Semantics.Clauses
import Mathlib.Data.List.Basic

/-!
What a plan says about a database. Its solutions at a row are found without aliases, by following
the joins from row to row. Once the plan is placed they are the combinations that its joins and
predicates keep: no two tables share an alias, so what is said of a table stays true when rows of
other tables are chosen, and the conditions can be checked table by table.
-/

namespace EntityQuery

open EntityQuery.Reading (pointees)
open EntityQuery.Sql (Combination Database Env Expr Interpretation Join Row choices)

/-! Choices -/

theorem Sql.choices_append {α : Type} (xs ys : List (List α)) :
    choices (xs ++ ys) = (choices xs).flatMap fun x => (choices ys).map (x ++ ·) := by
  induction xs with
  | nil => simp [choices]
  | cons x xs ih =>
    simp only [List.cons_append, choices, ih, List.map_flatMap, List.flatMap_assoc,
      List.flatMap_map, List.map_map, Function.comp_def]

theorem Sql.choices_cons_append {α : Type} (x : List α) (ys zs : List (List α)) :
    choices (x :: (ys ++ zs)) =
      x.flatMap fun a => (choices ys).flatMap fun b => (choices zs).map fun c => a :: (b ++ c) := by
  simp only [choices, choices_append, List.map_flatMap, List.map_map, Function.comp_def]

theorem Sql.filter_flatMap_if {α δ : Type} {xs : List α} {f g : α → List δ} {p : δ → Bool}
    {q : α → Bool} (h : ∀ a ∈ xs, (f a).filter p = if q a then g a else []) :
    (xs.flatMap f).filter p = (xs.filter q).flatMap g := by
  induction xs with
  | nil => rfl
  | cons x xs ih =>
    obtain ⟨hx, hxs⟩ := List.forall_mem_cons.1 h
    rw [List.flatMap_cons, List.filter_append, hx, ih hxs, List.filter_cons]
    cases q x <;> simp

/-- A condition on triples that falls into three parts is checked one part after the other. -/
theorem Sql.filter_triples {α β γ δ : Type} {xs : List α} {ys : List β} {zs : List γ}
    {f : α → β → γ → δ} {p : δ → Bool} (p₁ : α → Bool) (p₂ : α → β → Bool) (p₃ : γ → Bool)
    (h : ∀ a ∈ xs, ∀ b ∈ ys, ∀ c ∈ zs, p (f a b c) = (p₁ a && (p₂ a b && p₃ c))) :
    (xs.flatMap fun a => ys.flatMap fun b => zs.map (f a b)).filter p =
      (xs.filter p₁).flatMap fun a =>
        (ys.filter (p₂ a)).flatMap fun b => (zs.filter p₃).map (f a b) := by
  refine filter_flatMap_if fun a ha => ?_
  cases h₁ : p₁ a with
  | false =>
    rw [if_neg Bool.false_ne_true, List.filter_eq_nil_iff]
    intro d hd
    obtain ⟨b, hb, hd⟩ := List.mem_flatMap.1 hd
    obtain ⟨c, hc, rfl⟩ := List.mem_map.1 hd
    simp [h a ha b hb c hc, h₁]
  | true =>
    rw [if_pos rfl]
    refine filter_flatMap_if fun b hb => ?_
    have hz : ∀ c ∈ zs, (p ∘ f a b) c = (p₂ a b && p₃ c) := fun c hc => by
      rw [Function.comp_apply, h a ha b hb c hc, h₁, Bool.true_and]
    rw [List.filter_map, List.filter_congr hz]
    cases p₂ a b <;> simp

namespace Compile

variable {D : Type} (I : Interpretation D) (db : Database D)

/-! Solutions -/

def Part.holds (p : Part) (r : Row D) : Bool := met I r p.predicate

/-- The ways to choose a row for each join of a plan, from a row that the plan is about. -/
def Plan.solutions {α : Type} : Plan α → Row D → List (List (Row D))
  | .done, _ => [[]]
  | .field part rest, r => if part.holds I r then rest.solutions r else []
  | .join part related _ below rest, r =>
    if part.holds I r then
      (pointees I db related (r part.column)).flatMap fun r' =>
        (below.solutions r').flatMap fun b => (rest.solutions r).map fun c => r' :: (b ++ c)
    else []

theorem Plan.solutions_place (p : Plan Unit) (al : Aliases) (r : Row D) :
    (p.place al).1.solutions I db r = p.solutions I db r := by
  induction p generalizing al r with
  | done => rfl
  | field part rest ih => simp only [place, solutions, ih]
  | join part related l below rest ihb ihr => simp only [place, solutions, ihb, ihr]

/-! Conditions, table by table -/

/-- Whether every condition of a join and every predicate of a placed plan is true. -/
def Plan.satisfied (p : Plan String) (asName : String) (env : Env D) : Bool :=
  (p.joins asName).all (fun j => j.condition.holds I env) &&
    (p.predicates asName).all (·.holds I env)

theorem holds_qualify {c asName : String} {e : Expr} (h : Flat (.column none c) e) (env : Env D) :
    (e.qualify asName).holds I env = e.holds I fun _ => env (some asName) := by
  cases h with
  | isNull negated => rfl
  | compare op hl => rfl
  | member hls =>
    simp only [Expr.qualify, Expr.holds, Expr.truth, Expr.cell, List.map_map,
      Function.comp_def]
  | never => rfl

theorem Part.all_predicates {p : Part} (h : p.IsFlat) (asName : String) (env : Env D) :
    (p.predicates asName).all (·.holds I env) = p.holds I (env (some asName)) := by
  cases hp : p.predicate with
  | none => simp [predicates, holds, met, hp]
  | some e => simp [predicates, holds, met, hp, holds_qualify I (h e hp)]

theorem Plan.satisfied_field {part : Part} (h : part.IsFlat) (rest : Plan String)
    (asName : String) (env : Env D) :
    (Plan.field part rest).satisfied I asName env =
      (part.holds I (env (some asName)) && rest.satisfied I asName env) := by
  simp only [satisfied, joins, predicates, List.all_append, Part.all_predicates I h]
  ac_rfl

theorem Plan.satisfied_join {part : Part} (h : part.IsFlat) (related : Entity) (l : String)
    (below rest : Plan String) (asName : String) (env : Env D) :
    (Plan.join part related l below rest).satisfied I asName env =
      (part.holds I (env (some asName)) &&
        (I.compare .eq (env (some asName) part.column) (env (some l) related.primaryKey) ==
          some true) && (below.satisfied I l env && rest.satisfied I asName env)) := by
  have hon : (relatedJoin asName part.column related l).condition.holds I env =
      (I.compare .eq (env (some asName) part.column) (env (some l) related.primaryKey) ==
        some true) := rfl
  simp only [satisfied, joins, predicates, List.all_append, List.all_cons, hon,
    Part.all_predicates I h]
  ac_rfl

/-- Only the rows under the plan's own aliases count. -/
theorem Plan.satisfied_congr {p : Plan String} (hp : ∀ q ∈ p.parts, q.IsFlat) {asName : String}
    {env env' : Env D} (h : ∀ l ∈ asName :: p.labels, env (some l) = env' (some l)) :
    p.satisfied I asName env = p.satisfied I asName env' := by
  induction p generalizing asName with
  | done => rfl
  | field part rest ih =>
    obtain ⟨hpart, hrest⟩ := List.forall_mem_cons.1 hp
    rw [satisfied_field I hpart, satisfied_field I hpart, ih hrest h, h asName (.head _)]
  | join part related l below rest ihb ihr =>
    obtain ⟨hpart, hp⟩ := List.forall_mem_cons.1 hp
    obtain ⟨hbelow, hrest⟩ := List.forall_mem_append.1 hp
    have hb : below.satisfied I l env = below.satisfied I l env' := by
      apply ihb hbelow
      intro x hx
      refine h x (.tail _ ?_)
      rw [labels, ← List.cons_append]
      exact List.mem_append_left _ hx
    have hr : rest.satisfied I asName env = rest.satisfied I asName env' := by
      apply ihr hrest
      intro x hx
      refine h x ?_
      rcases List.mem_cons.1 hx with rfl | hx
      · exact .head _
      · exact .tail _ (.tail _ (List.mem_append_right _ hx))
    rw [satisfied_join I hpart, satisfied_join I hpart, hb, hr, h asName (.head _),
      h l (by simp [labels])]

/-! Combinations -/

section

variable {m m' : Combination D} {x : String}

theorem env_append_of_mem (h : x ∈ m.map (·.1)) : (m ++ m').env (some x) = m.env (some x) := by
  obtain ⟨⟨y, r⟩, hm, rfl⟩ := List.mem_map.1 h
  have hs : (m.lookup y).isSome = true := List.lookup_isSome_iff.2 ⟨_, hm, by simp⟩
  simp only [Combination.env, List.lookup_append, Option.or_of_isSome hs]

theorem env_append_of_not_mem (h : x ∉ m.map (·.1)) :
    (m ++ m').env (some x) = m'.env (some x) := by
  have hn : m.lookup x = none := by
    rw [List.lookup_eq_none_iff]
    intro e he
    have hne : x ≠ e.1 := fun heq => h (List.mem_map.2 ⟨e, he, heq.symm⟩)
    simpa using hne
  simp only [Combination.env, List.lookup_append, hn, Option.none_or]

theorem env_of_lookup {r : Row D} (h : m.lookup x = some r) : m.env (some x) = r := by
  simp only [Combination.env, h, Option.getD_some]

end

theorem keys_of_mem_choices {db : Database D} {js : List Join} {m : Combination D}
    (h : m ∈ choices (js.map fun j => j.table.candidates db)) :
    m.map (·.1) = js.map fun j => j.table.referenceName := by
  induction js generalizing m with
  | nil => rw [List.mem_singleton.1 h]; rfl
  | cons j js ih =>
    obtain ⟨x, hx, hm⟩ := List.mem_flatMap.1 h
    obtain ⟨m', hm', rfl⟩ := List.mem_map.1 hm
    obtain ⟨r, -, rfl⟩ := List.mem_map.1 hx
    rw [List.map_cons, List.map_cons, ih hm']

/-- The combinations of rows for the joins of a placed plan. -/
def Plan.candidates (p : Plan String) (asName : String) : List (Combination D) :=
  choices ((p.joins asName).map fun j => j.table.candidates db)

theorem Plan.keys_of_mem_candidates {p : Plan String} {asName : String} {m : Combination D}
    (h : m ∈ p.candidates db asName) : m.map (·.1) = p.labels :=
  (keys_of_mem_choices h).trans (p.referenceNames_joins asName)

theorem Plan.candidates_join (part : Part) (related : Entity) (l : String)
    (below rest : Plan String) (asName : String) :
    (Plan.join part related l below rest).candidates db asName =
      (db related.schema related.table).flatMap fun r' =>
        (below.candidates db l).flatMap fun b =>
          (rest.candidates db asName).map fun c => (l, r') :: (b ++ c) := by
  have hj : (relatedJoin asName part.column related l).table.candidates db =
      (db related.schema related.table).map fun r' => (l, r') := rfl
  rw [candidates, joins, List.map_cons, List.map_append, Sql.choices_cons_append, hj,
    List.flatMap_map]
  rfl

/-- The rows chosen so far have one for the plan itself, and none under an alias of the plan. -/
structure Plan.Ready (p : Plan String) (asName : String) (r : Row D) (known : Combination D) :
    Prop where
  own : known.lookup asName = some r
  nodup : p.labels.Nodup
  fresh : ∀ l ∈ p.labels, l ∉ known.map (·.1)

namespace Plan.Ready

variable {part : Part} {related : Entity} {l asName : String} {below rest p : Plan String}
  {r r' : Row D} {known b c : Combination D}

theorem env_own (h : p.Ready asName r known) (m : Combination D) :
    (known ++ m).env (some asName) = r := by
  obtain ⟨l₁, l₂, hk, -⟩ := List.lookup_eq_some_iff.1 h.own
  rw [env_append_of_mem (by simp [hk]), env_of_lookup h.own]

theorem env_label (h : (Plan.join part related l below rest).Ready asName r known)
    (m : Combination D) : (known ++ (l, r') :: m).env (some l) = r' := by
  rw [env_append_of_not_mem (h.fresh l (.head _))]
  exact env_of_lookup (by simp)

theorem rest_of_field (h : (Plan.field part rest).Ready asName r known) :
    rest.Ready asName r known := ⟨h.own, h.nodup, h.fresh⟩

theorem rest_of_join (h : (Plan.join part related l below rest).Ready asName r known) :
    rest.Ready asName r known where
  own := h.own
  nodup := (List.nodup_append.1 (List.nodup_cons.1 h.nodup).2).2.1
  fresh x hx := h.fresh x (.tail _ (List.mem_append_right _ hx))

/-- Below a join its own row is chosen as well. -/
theorem below_of_join (h : (Plan.join part related l below rest).Ready asName r known)
    (r' : Row D) :
    below.Ready l r' (known ++ [(l, r')]) where
  own := by
    have hl : known.lookup l = none := by
      rw [List.lookup_eq_none_iff]
      intro e he
      simpa using fun heq => h.fresh l (.head _) (List.mem_map.2 ⟨e, he, heq.symm⟩)
    simp [List.lookup_append, hl]
  nodup := (List.nodup_append.1 (List.nodup_cons.1 h.nodup).2).1
  fresh x hx hm := by
    rw [List.map_append, List.mem_append] at hm
    rcases hm with hm | hm
    · exact h.fresh x (.tail _ (List.mem_append_left _ hx)) hm
    · rw [List.mem_singleton.1 hm] at hx
      exact (List.nodup_cons.1 h.nodup).1 (List.mem_append_left _ hx)

/-- What is said of the tables below a join does not depend on the rows of the rest. -/
theorem satisfied_below (hp : ∀ q ∈ below.parts, q.IsFlat)
    (hb : b.map (·.1) = below.labels) :
    below.satisfied I l (known ++ (l, r') :: (b ++ c)).env =
      below.satisfied I l ((known ++ [(l, r')]) ++ b).env := by
  refine Plan.satisfied_congr I hp fun x hx => ?_
  have hm : x ∈ ((known ++ [(l, r')]) ++ b).map (·.1) := by
    rw [List.map_append, hb]
    rcases List.mem_cons.1 hx with rfl | hx <;> simp [*]
  have hc : (((known ++ [(l, r')]) ++ b) ++ c).env (some x) =
      ((known ++ [(l, r')]) ++ b).env (some x) := env_append_of_mem hm
  rw [← hc]
  simp

/-- Nor does what is said of the rest depend on the rows of the join and below it. -/
theorem satisfied_rest (h : (Plan.join part related l below rest).Ready asName r known)
    (hp : ∀ q ∈ rest.parts, q.IsFlat) (hb : b.map (·.1) = below.labels) :
    rest.satisfied I asName (known ++ (l, r') :: (b ++ c)).env =
      rest.satisfied I asName (known ++ c).env := by
  obtain ⟨hl, hlabels⟩ := List.nodup_cons.1 h.nodup
  refine Plan.satisfied_congr I hp fun x hx => ?_
  rcases List.mem_cons.1 hx with rfl | hx
  · rw [h.env_own, h.env_own]
  · have hxk : x ∉ known.map (·.1) := h.fresh x (.tail _ (List.mem_append_right _ hx))
    have hxb : x ∉ ((l, r') :: b).map (·.1) := by
      rw [List.map_cons, hb, List.mem_cons]
      rintro (rfl | hxb)
      · exact hl (List.mem_append_right _ hx)
      · exact (List.nodup_append.1 hlabels).2.2 x hxb x hx rfl
    rw [env_append_of_not_mem hxk, env_append_of_not_mem hxk, ← List.cons_append,
      env_append_of_not_mem hxb]

end Plan.Ready

/-- The combinations that a placed plan keeps are its solutions. -/
theorem Plan.filter_candidates {p : Plan String} (hp : ∀ q ∈ p.parts, q.IsFlat)
    {asName : String} {r : Row D} {known : Combination D} (h : p.Ready asName r known) :
    ((p.candidates db asName).filter fun m => p.satisfied I asName (known ++ m).env).map
      (·.map (·.2)) = p.solutions I db r := by
  induction p generalizing asName r known with
  | done => rfl
  | field part rest ih =>
    obtain ⟨hpart, hrest⟩ := List.forall_mem_cons.1 hp
    simp only [satisfied_field I hpart, h.env_own]
    rw [solutions, ← ih hrest h.rest_of_field]
    cases part.holds I r <;> simp [candidates, joins]
  | join part related l below rest ihb ihr =>
    obtain ⟨hpart, hp⟩ := List.forall_mem_cons.1 hp
    obtain ⟨hbelow, hrest⟩ := List.forall_mem_append.1 hp
    rw [candidates_join, Sql.filter_triples
      (fun r' => part.holds I r && (I.compare .eq (r part.column) (r' related.primaryKey) ==
        some true))
      (fun r' b => below.satisfied I l ((known ++ [(l, r')]) ++ b).env)
      (fun c => rest.satisfied I asName (known ++ c).env)]
    · rw [solutions]
      cases part.holds I r with
      | false => simp
      | true =>
        rw [if_pos rfl, List.map_flatMap]
        refine List.flatMap_congr fun r' _ => ?_
        rw [← ihb hbelow (h.below_of_join r'), ← ihr hrest h.rest_of_join]
        simp only [List.map_flatMap, List.flatMap_map, List.map_map, Function.comp_def,
          List.map_cons, List.map_append]
    · intro r' _ b hb c _
      rw [satisfied_join I hpart, h.env_own, h.env_label,
        Ready.satisfied_below I hbelow (keys_of_mem_candidates db hb),
        h.satisfied_rest I hrest (keys_of_mem_candidates db hb)]

end Compile

end EntityQuery
