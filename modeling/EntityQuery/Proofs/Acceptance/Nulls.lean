import EntityQuery.Proofs.Compile.Run
import EntityQuery.Proofs.Compile.Shape

/-!
Comparisons with null. A clause that compares with null is compiled to a null test, and null is kept
from the codec where a literal is compared with, so with the plain codec no side of a comparison is
the null literal.
-/

namespace EntityQuery

open EntityQuery.Compile
open EntityQuery.Sql (Comparison Expr Literal Query)

/-- A comparison that has the null literal on one of its sides. -/
def Sql.Expr.ComparesNull : Expr → Prop
  | .compare _ l r => l = .literal .null ∨ r = .literal .null
  | _ => False

theorem Sql.Expr.comparesNull_of_qualify {e : Expr} {asName : String}
    (h : (e.qualify asName).ComparesNull) : e.ComparesNull := by
  cases e with
  | compare op l r =>
    refine h.imp_left fun hl => ?_
    cases l with
    | literal l => exact hl
    | column t c => cases t <;> cases hl
    | _ => cases hl
  | column t c => cases t <;> cases h
  | _ => cases h

theorem Compile.Shaped.not_comparesNull {listed : Literal → Prop} {t : Option String} {c : String}
    {p : Expr} (h : Shaped (· ≠ .null) listed (.column t c) p) : ¬ p.ComparesNull := by
  cases h with
  | isNull negated => exact id
  | compare op hl =>
    rintro (h | h)
    · cases h
    · cases h
      exact hl rfl
  | member h => exact id
  | never => rintro (h | h) <;> cases h

theorem Codec.ne_null_of_lowerPlain {v : Value} {l : Literal} (hn : v ≠ .null)
    (h : lowerPlain v = .ok l) : l ≠ .null := by
  cases v with
  | null => exact absurd rfl hn
  | float x =>
    rw [lowerPlain] at h
    obtain ⟨rfl, -⟩ := checkFinite_eq_ok_iff.1 h
    nofun
  | entity r =>
    obtain ⟨name, - | id⟩ := r <;> cases h
    nofun
  | list vs => cases h
  | _ =>
    cases h
    nofun

/-- Null may stand in lists. -/
theorem Codec.gives_plain : Codec.plain.guarded.Gives (· ≠ .null) fun _ => True where
  lower hn h := ⟨ne_null_of_lowerPlain hn (guarded_lower_eq_ok_iff.1 h).1, trivial⟩
  lowerAll _ _ _ := trivial

/-- With the plain codec, neither a predicate nor a join condition of a compiled query compares with
null. -/
theorem Spec.not_comparesNull_toQuery {spec : Spec} {schema : Schema} {fallbackLimit : UInt64}
    {entity : String} {q : Query}
    (h : spec.toQuery schema .plain fallbackLimit entity = .ok q) :
    ∀ p ∈ q.predicates ++ q.joins.map (·.condition), ¬ p.ComparesNull := by
  obtain ⟨e, p, limit, offset, -, -, -, hp, rfl⟩ := Spec.exists_plan_of_toQuery h
  refine List.forall_mem_append.2 ⟨?_, List.forall_mem_map.2 ?_⟩
  · rw [predicates_addPage]
    intro r hr hnull
    obtain ⟨x, -, hpart, q, hq, rfl⟩ := Plan.exists_part_of_mem_predicates hr
    rw [Plan.placed, Plan.parts_place] at hpart
    have hshaped := (planned_of_plan _ hp).forall_parts (shaped_of_planField Codec.gives_plain)
      x.1 hpart q hq
    exact hshaped.not_comparesNull (Sql.Expr.comparesNull_of_qualify hnull)
  · rw [joins_addPage]
    intro j hj
    cases Plan.onColumns_of_mem_joins _ _ j hj
    rintro (h | h) <;> cases h

end EntityQuery
