import EntityQuery.Proofs.Compile.Aliases

/-!
Compiling clauses only adds to a query. Whatever stands in the query when a run starts stays as it
is, and what the run adds comes after it and is what it would have added to the empty query, with
the same result and the same aliases. No exit of a run is an exception: one that fails halfway
leaves behind just what it had added by then.
-/

namespace EntityQuery

open EntityQuery.Sql (Expr OrderTerm Query)

/-! Queries and what is added to them -/

/-- The query with the joins, predicates and order terms of another one after its own. -/
def Sql.Query.extend (q added : Query) : Query :=
  { q with
    joins := q.joins ++ added.joins
    predicates := q.predicates ++ added.predicates
    order := q.order ++ added.order }

theorem Sql.Query.extend_empty (q : Query) : q.extend {} = q := by
  simp [extend]

theorem Sql.Query.extend_assoc (q a b : Query) : (q.extend a).extend b = q.extend (a.extend b) := by
  simp [extend]

namespace Compile

namespace Draft

/-- The same aliases, with nothing in the query. -/
def bare (d : Draft) : Draft := { d with query := {} }

/-- The draft that a run comes to, if from the bare draft it comes to `added`. -/
def extend (d added : Draft) : Draft := ⟨added.aliases, d.query.extend added.query⟩

theorem extend_bare (d : Draft) : d.extend d.bare = d := by
  rw [extend, bare, Query.extend_empty]

theorem extend_assoc (d a b : Draft) : (d.extend a).extend b = d.extend (a.extend b) := by
  simp only [extend, Query.extend_assoc]

theorem bare_extend (d added : Draft) : (d.extend added).bare = added.bare := rfl

end Draft

/-! Computations that only add -/

/-- From every draft, the computation does what it does from the bare one, and what it adds comes
after what is there. It never takes an alias back. -/
structure Appends {α : Type} (m : CompileM α) : Prop where
  run_eq (d : Draft) : m.run.run d = ((m.run.run d.bare).1, d.extend (m.run.run d.bare).2)
  counter_le (d : Draft) (abbr : String) :
    d.aliases.counter abbr ≤ (m.run.run d).2.aliases.counter abbr

section

variable {α β : Type} {m : CompileM α} {f : α → CompileM β}

theorem run_bind_stopped {d d' : Draft} {err : CompileError}
    (h : m.run.run d = (.error err, d')) : (m >>= f).run.run d = (.error err, d') := by
  rw [ExceptT.run_bind, StateT.run_bind, h]
  rfl

theorem appends_except (x : Except CompileError α) : Appends (liftM x : CompileM α) where
  run_eq d := by
    have hd := d.extend_bare
    cases x <;> exact Prod.ext rfl hd.symm
  counter_le d abbr := by cases x <;> exact Nat.le_refl _

theorem appends_pure (a : α) : Appends (pure a : CompileM α) := appends_except (.ok a)

theorem appends_throw (err : CompileError) : Appends (throw err : CompileM α) :=
  appends_except (.error err)

/-- What is done to a query adds to it if it does the same to every query. -/
theorem appends_modifyQuery {g : Query → Query} (h : ∀ q, g q = q.extend (g {})) :
    Appends (modifyQuery g) where
  run_eq d := Prod.ext rfl (congrArg (Draft.mk d.aliases) (h d.query))
  counter_le _ _ := Nat.le_refl _

theorem appends_newAlias (table : String) : Appends (newAlias table) where
  run_eq d := Prod.ext rfl (congrArg (Draft.mk _) d.query.extend_empty.symm)
  counter_le d abbr := d.aliases.le_counter_allocate table abbr

/-- One computation after another. If the first one fails, its error and its draft are those of
both. -/
theorem Appends.bind (hm : Appends m) (hf : ∀ a, Appends (f a)) : Appends (m >>= f) where
  run_eq d := by
    have hd := hm.run_eq d
    generalize hbare : m.run.run d.bare = r at hd
    obtain ⟨err | a, d₁⟩ := r
    · rw [run_bind_stopped hd, run_bind_stopped hbare]
    · rw [run_bind_ok hd, run_bind_ok hbare, (hf a).run_eq, (hf a).run_eq d₁, Draft.bare_extend,
        Draft.extend_assoc]
  counter_le d abbr := by
    have hle := hm.counter_le d abbr
    generalize hr : m.run.run d = r at hle
    obtain ⟨err | a, d₁⟩ := r
    · rw [run_bind_stopped hr]
      exact hle
    · rw [run_bind_ok hr]
      exact Nat.le_trans hle ((hf a).counter_le d₁ abbr)

end

/-! Fields -/

theorem appends_addPredicate (p : Option Expr) : Appends (addPredicate p) := by
  cases p with
  | none => exact appends_pure ()
  | some e =>
    exact appends_modifyQuery (g := (·.addPredicate e)) fun q => by
      simp [Query.addPredicate, Query.extend]

theorem appends_addOrder (column : Expr) (order : Option SortClause) :
    Appends (addOrder column order) := by
  rcases order with - | ⟨d⟩ | o
  · exact appends_pure ()
  · exact appends_modifyQuery (g := (·.addOrder ⟨column, d⟩)) fun q => by
      simp [Query.addOrder, Query.extend]
  · exact appends_pure ()

section

variable (schema : Schema) (codec : Codec)

theorem appends_visitPlain (site : Site) (column : Expr) (clause : Clause)
    (order : Option SortClause) : Appends (visitPlain codec site column clause order) := by
  unfold visitPlain
  refine (appends_except _).bind fun p => (appends_addPredicate p).bind fun _ => ?_
  exact (appends_except _).bind fun _ => appends_addOrder column order

theorem appends_visitKey (site : Site) (column : Expr) (clause : Clause)
    (order : Option SortClause) : Appends (visitKey codec site column clause order) := by
  unfold visitKey
  refine (appends_except _).bind fun p => (appends_addPredicate p).bind fun _ => ?_
  exact appends_addOrder column order

theorem appends_joinRelated (column : Expr) (target : String) :
    Appends (joinRelated schema column target) := by
  unfold joinRelated
  cases schema target with
  | none => exact appends_throw _
  | some related =>
    refine (appends_newAlias _).bind fun asName => .bind ?_ fun _ => appends_pure _
    exact appends_modifyQuery fun q => by simp [Query.addJoin, Query.extend]

theorem appends_visitField (e : Entity) (asName field : String) (clause : Clause)
    (order : Option SortClause) :
    Appends (visitField schema codec e asName field clause order) := by
  unfold visitField
  cases e.column? field with
  | none => exact appends_throw _
  | some c =>
    cases hr : c.references with
    | none =>
      simp only [hr]
      exact (appends_visitPlain codec _ _ _ _).bind fun _ => appends_pure _
    | some target =>
      simp only [hr]
      refine (appends_visitKey codec _ _ _ _).bind fun _ => ?_
      split
      · exact (appends_joinRelated schema _ _).bind fun _ => appends_pure _
      · exact appends_pure _

/-! Visits -/

mutual

theorem appends_visit (e : Entity) (asName : String) :
    ∀ v : Visit, Appends (visit schema codec e asName v)
  | .field name clause order below => by
    rw [visit]
    refine (appends_visitField schema codec e asName name clause order).bind fun related => ?_
    cases related with
    | none => exact appends_pure ()
    | some r => exact appends_visitAll r.1 r.2 below

theorem appends_visitAll (e : Entity) (asName : String) :
    ∀ vs : List Visit, Appends (visitAll schema codec e asName vs)
  | [] => by
    rw [visitAll]
    exact appends_pure ()
  | v :: vs => by
    rw [visitAll]
    exact (appends_visit e asName v).bind fun _ => appends_visitAll e asName vs

end

/-- What compiling the clauses of a scope comes to, from a draft. -/
def clausesFrom (e : Entity) (asName : String) (s : Scope) (d : Draft) :
    Except CompileError Unit × Draft :=
  (compileClauses schema codec e asName s.filter s.order).run.run d

/-- However a run of the clauses ends, it leaves the select list, the source and the page of the
query alone and adds joins, predicates and order terms at their ends; no counter of the aliases goes
down; and its result, its aliases and all that it adds are those of the run from the empty query. -/
theorem clausesFrom_appends (e : Entity) (asName : String) (s : Scope) (aliases : Aliases)
    (q : Query) :
    (clausesFrom schema codec e asName s ⟨aliases, q⟩).1 =
        (clausesFrom schema codec e asName s ⟨aliases, {}⟩).1 ∧
      (clausesFrom schema codec e asName s ⟨aliases, q⟩).2 =
        { aliases := (clausesFrom schema codec e asName s ⟨aliases, {}⟩).2.aliases
          query :=
            { select := q.select
              source := q.source
              page := q.page
              joins := q.joins ++
                (clausesFrom schema codec e asName s ⟨aliases, {}⟩).2.query.joins
              predicates := q.predicates ++
                (clausesFrom schema codec e asName s ⟨aliases, {}⟩).2.query.predicates
              order := q.order ++
                (clausesFrom schema codec e asName s ⟨aliases, {}⟩).2.query.order } } ∧
      ∀ abbr, aliases.counter abbr ≤
        (clausesFrom schema codec e asName s ⟨aliases, q⟩).2.aliases.counter abbr := by
  have h := appends_visitAll schema codec e asName (Visit.ofScope s.filter s.order)
  have hrun := h.run_eq ⟨aliases, q⟩
  have hresult := congrArg Prod.fst hrun
  have hdraft := congrArg Prod.snd hrun
  exact ⟨hresult, hdraft, h.counter_le ⟨aliases, q⟩⟩

end

end Compile

end EntityQuery
