import EntityQuery.Proofs.Semantics.Solutions
import EntityQuery.Proofs.Staff

/-!
Compiling keeps the meaning. The solutions of a plan at a row are the witnesses of the scope that it
was made from, and the combinations that a query keeps are the solutions of its plan; so the query
of a spec keeps just one combination for each witness, made of the witness's rows.
-/

namespace EntityQuery

open EntityQuery.Compile
open EntityQuery.Reading
open EntityQuery.Sql (Combination Database Interpretation Query Row choices)

section

variable {D : Type} {I : Interpretation D} {db : Database D} {schema : Schema} {codec : Codec}

theorem Reading.rowsOfAll_append (ws ws' : List (Witness D)) :
    rowsOfAll (ws ++ ws') = rowsOfAll ws ++ rowsOfAll ws' := by
  induction ws with
  | nil => rfl
  | cons w ws ih => rw [List.cons_append, rowsOfAll, rowsOfAll, ih, List.append_assoc]

namespace Compile

/-! Single fields -/

section

variable {e : Entity} {n : Named} {part : Part}

theorem holds_of_planField {related : Option Entity}
    (h : planField schema codec.guarded e n.field n.clause n.order = .ok (part, related))
    (r : Row D) : part.holds I r = fieldHolds I codec e r n := by
  have hf := fieldPlan_planField schema codec.guarded e n.field n.clause n.order
  rw [h] at hf
  unfold fieldHolds
  cases hf with
  | plain hc hr hp ho =>
    rw [Entity.column?] at hc
    simp only [hc, hr, Part.holds, met_of_plainPredicate hp]
  | key hc hr hp hg =>
    rw [Entity.column?] at hc
    simp only [hc, hr, Part.holds, met_of_keyPredicate hp]
  | related hc hr hp hg ht =>
    rw [Entity.column?] at hc
    simp only [hc, hr, Part.holds, met_of_keyPredicate hp]

theorem ways_of_planField {related : Option Entity}
    (h : planField schema codec.guarded e n.field n.clause n.order = .ok (part, related))
    (r : Row D) (follow : Entity → Row D → List (Witness D)) :
    ways I codec schema db e r n follow =
      if part.holds I r then
        match related with
        | some related =>
          (pointees I db related (r part.column)).flatMap fun r' =>
            (follow related r').map fun w => [w]
        | none => [[]]
      else [] := by
  rw [ways, holds_of_planField h, hop?_of_planField h]
  cases related <;> rfl

end

/-! Scopes -/

/-- The solutions of a plan at a row are what may follow on it, field by field. -/
theorem Planned.solutions {e : Entity} {ns : List Named} {p : Plan Unit}
    (h : Planned schema codec.guarded e ns p) (r : Row D) :
    (choices (ns.map fun n => ways I codec schema db e r n fun related r' =>
      witnesses I codec schema db related n.below r')).map (fun ws => rowsOfAll ws.flatten) =
        p.solutions I db r := by
  induction h generalizing r with
  | done => rfl
  | @field e n ns part rest hf hr ih =>
    rw [List.map_cons, choices, ways_of_planField hf, Plan.solutions, ← ih]
    cases part.holds I r <;> simp
  | @join e n ns part related inner rest hf hb hr ihb ih =>
    rw [List.map_cons, choices, ways_of_planField hf, Plan.solutions, ← ih]
    cases part.holds I r with
    | false => simp
    | true =>
      simp only [if_true, List.map_flatMap, List.flatMap_assoc, List.flatMap_map, List.map_map]
      refine List.flatMap_congr fun r' _ => ?_
      -- only the rows of a witness below count
      let cs := choices (ns.map fun n => ways I codec schema db e r n fun related r' =>
        witnesses I codec schema db related n.below r')
      let extend (rows : List (Row D)) := cs.map fun ws => rows ++ rowsOfAll ws.flatten
      have hrows : (witnesses I codec schema db related n.below r').map Witness.rows =
          (inner.solutions I db r').map (r' :: ·) := by
        rw [witnesses_eq, ← ihb r', List.map_map, List.map_map]
        rfl
      calc
        _ = (witnesses I codec schema db related n.below r').flatMap (fun w => extend w.rows) := by
          simp only [extend, Function.comp_def, List.flatten_cons, rowsOfAll_append, rowsOfAll,
            List.append_nil]
          rfl
        _ = ((inner.solutions I db r').map (r' :: ·)).flatMap extend := by
          rw [← hrows, List.flatMap_map]
        _ = _ := by
          rw [List.flatMap_map]
          rfl

theorem rows_witnesses (s : Scope) {e : Entity} {p : Plan Unit}
    (h : plan schema codec.guarded e s = .ok p) (r : Row D) :
    (witnesses I codec schema db e s r).map Witness.rows = (p.solutions I db r).map (r :: ·) := by
  rw [witnesses_eq, ← (planned_of_plan s h).solutions r, List.map_map, List.map_map]
  rfl

/-! Queries -/

theorem Plan.ready_placed (p : Plan Unit) (e : Entity) (r : Row D) :
    (p.placed e).Ready (sourceName e) r [(sourceName e, r)] := by
  obtain ⟨hnot, hn⟩ := List.nodup_cons.1 (p.nodup_labels e)
  refine ⟨by simp, hn, fun l hl hm => ?_⟩
  rw [List.map_singleton, List.mem_singleton] at hm
  subst hm
  exact hnot hl

theorem keeps_addPage_query (p : Plan String) (e : Entity) (asName : String) (limit : UInt64)
    (offset : Option UInt64) (m : Combination D) :
    (addPage (p.query e asName) limit offset).keeps I m = p.satisfied I asName m.env := by
  rw [Query.keeps, joins_addPage, predicates_addPage]
  rfl

theorem rows_keptFrom {e : Entity} {s : Scope} {p : Plan Unit}
    (h : plan schema codec.guarded e s = .ok p) (limit : UInt64) (offset : Option UInt64)
    (r : Row D) :
    ((addPage ((p.placed e).query e (sourceName e)) limit offset).keptFrom I db
      (sourceName e, r)).map (·.map (·.2)) =
        (witnesses I codec schema db e s r).map Witness.rows := by
  have hp : ∀ q ∈ (p.placed e).parts, q.IsFlat := by
    rw [Plan.placed, Plan.parts_place]
    exact (planned_of_plan s h).isFlat
  have hs : (p.placed e).solutions I db r = p.solutions I db r := p.solutions_place I db _ r
  rw [rows_witnesses s h, ← hs, ← Plan.filter_candidates I db hp (p.ready_placed e r),
    Query.keptFrom, List.filter_map, List.map_map, List.map_map, joins_addPage]
  simp only [Function.comp_def, keeps_addPage_query]
  rfl

end Compile

/-- A query keeps one combination for each witness of its spec, made of the witness's rows: for each
row of the entity's table, and so for the table as a whole. -/
theorem Spec.rows_kept_toQuery {spec : Spec} {fallbackLimit : UInt64} {entity : String} {q : Query}
    (h : spec.toQuery schema codec fallbackLimit entity = .ok q) :
    ∃ e t, schema entity = some e ∧ q.source = some t ∧ t.schema = e.schema ∧ t.name = e.table ∧
      ∀ (D : Type) (I : Interpretation D) (db : Database D),
        (∀ r, (q.keptFrom I db (t.referenceName, r)).length =
          (witnesses I codec schema db e ⟨spec.filter, spec.order⟩ r).length) ∧
        (q.kept I db).map (·.map (·.2)) = (db e.schema e.table).flatMap fun r =>
          (witnesses I codec schema db e ⟨spec.filter, spec.order⟩ r).map Witness.rows := by
  obtain ⟨e, p, limit, offset, -, -, he, hp, rfl⟩ := Spec.exists_plan_of_toQuery h
  refine ⟨e, ⟨e.table, e.schema, some (sourceName e)⟩, he, source_addPage _ _ _, rfl, rfl,
    fun D I db => ⟨?_, ?_⟩⟩
  · intro r
    have hr := congrArg List.length (@rows_keptFrom D I db _ _ _ _ _ hp limit offset r)
    rwa [List.length_map, List.length_map] at hr
  · rw [Query.kept_eq_flatMap (source_addPage _ _ _), List.map_flatMap, Sql.Table.candidates,
      List.flatMap_map]
    exact List.flatMap_congr fun r _ => rows_keptFrom hp limit offset r

end

namespace Staff

open EntityQuery.Sql (Literal)

/-- A row of the table of people. -/
def personRow (id : Int64) (name : String) (age manager mentor : Option Int64) : Row Literal
  | "id" => some (.int id)
  | "full_name" => some (.string name)
  | "age" => age.map .int
  | "manager_id" => manager.map .int
  | "mentor_id" => mentor.map .int
  | _ => none

/-- Two rows have the same key, and some cells are null. -/
def people : List (Row Literal) := [
  personRow 1 "Ann" (some 40) (some 3) (some 4),
  personRow 2 "Abe" (some 30) (some 3) (some 4),
  personRow 3 "O'Hara" (some 50) (some 5) none,
  personRow 4 "Eve" (some 61) none none,
  personRow 5 "Bea" (some 70) none none,
  personRow 5 "Cem" none none (some 4)]

def database : Database Literal
  | some "hr", "people" => people
  | _, _ => []

/-- Ann is kept once with each of those who manage her manager. Abe is too young, and of the others
no name begins with an A. -/
theorem rows_kept_query :
    spec.toQuery schema .plain 10 "Person" = .ok query ∧
    (query.kept .plain database).map (·.map fun x => x.2 "full_name") =
      [["Ann", "Eve", "O'Hara", "Bea"].map fun s => some (.string s),
        ["Ann", "Eve", "O'Hara", "Cem"].map fun s => some (.string s)] ∧
    people.map (fun r =>
      (witnesses .plain .plain schema database person ⟨spec.filter, spec.order⟩ r).length) =
        [2, 0, 0, 0, 0, 0] ∧
    (query.kept .plain database).map (·.map (·.2)) = people.flatMap fun r =>
      (witnesses .plain .plain schema database person ⟨spec.filter, spec.order⟩ r).map
        Witness.rows := by
  have hkept : (query.kept .plain database).map (·.map fun x => x.2 "full_name") =
      [["Ann", "Eve", "O'Hara", "Bea"].map fun s => some (.string s),
        ["Ann", "Eve", "O'Hara", "Cem"].map fun s => some (.string s)] := by
    decide +kernel
  have hcounts : people.map (fun r => (query.keptFrom .plain database ("p0", r)).length) =
      [2, 0, 0, 0, 0, 0] := by
    decide +kernel
  obtain ⟨e, t, he, ht, -, -, hall⟩ := Spec.rows_kept_toQuery toQuery_spec
  cases he
  cases ht
  obtain ⟨hfrom, hrows⟩ := hall Literal .plain database
  refine ⟨toQuery_spec, hkept, ?_, hrows⟩
  rw [← hcounts]
  exact List.map_congr_left fun r _ => (hfrom r).symm

end Staff

end EntityQuery
