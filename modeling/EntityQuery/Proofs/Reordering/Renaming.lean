import EntityQuery.Proofs.Compile.Bindings
import EntityQuery.Proofs.Compile.Ordering
import EntityQuery.Proofs.Reordering.Plans
import Mathlib.Data.Set.Function

/-!
Queries that differ in the names of their aliases and in the order of their joins and predicates.
Plans with the same hops and stops give such queries: the alias at the end of each path is renamed
to the one that the other query has there.
-/

namespace EntityQuery

namespace Sql

/-! Renaming -/

namespace Expr

mutual

/-- The expression with its aliases renamed. -/
def rename (σ : String → String) : Expr → Expr
  | .column t c => .column (t.map σ) c
  | .literal l => .literal l
  | .compare op l r => .compare op (l.rename σ) (r.rename σ)
  | .call f args => .call f (renameAll σ args)
  | .inList e vs => .inList (e.rename σ) (renameAll σ vs)
  | .isNull e negated => .isNull (e.rename σ) negated
  | .star t => .star (t.map σ)

def renameAll (σ : String → String) : List Expr → List Expr
  | [] => []
  | e :: es => e.rename σ :: renameAll σ es

end

end Expr

variable (σ : String → String)

def Table.rename (t : Table) : Table := { t with asName := t.asName.map σ }

def Join.rename (j : Join) : Join := ⟨j.table.rename σ, j.condition.rename σ⟩

def OrderTerm.rename (t : OrderTerm) : OrderTerm := { t with expr := t.expr.rename σ }

/-- The names by which a query speaks of its tables. -/
def Query.referenceNames (q : Query) : List String := q.tables.map Table.referenceName

/-- The queries are equal but for the names of aliases and the order of joins and predicates.
Aliases are renamed one to one, each to that of the same table, and that of the source to itself. -/
structure Query.RenamedBy (q q' : Query) : Prop where
  bijective : Set.BijOn σ {a | a ∈ q.referenceNames} {a | a ∈ q'.referenceNames}
  fixed : ∀ t ∈ q.source, σ t.referenceName = t.referenceName
  tables : (q.tables.map (Table.rename σ)).Perm q'.tables
  select : q.select.map (Expr.rename σ) = q'.select
  source : q.source.map (Table.rename σ) = q'.source
  joins : (q.joins.map (Join.rename σ)).Perm q'.joins
  predicates : (q.predicates.map (Expr.rename σ)).Perm q'.predicates
  order : q.order.map (OrderTerm.rename σ) = q'.order
  page : q.page = q'.page

theorem Query.perm_tables {q q' : Query} (hs : q.source.map (Table.rename σ) = q'.source)
    (hj : (q.joins.map (Join.rename σ)).Perm q'.joins) :
    (q.tables.map (Table.rename σ)).Perm q'.tables := by
  have hjoins := hj.map Join.table
  rw [List.map_map] at hjoins
  rw [tables, tables, ← hs, List.map_append, List.map_map]
  refine .append ?_ hjoins
  cases q.source <;> exact .refl _

end Sql

namespace Compile

open EntityQuery.Sql (Expr OrderTerm Query)

/-! Renamed predicates -/

section

variable (σ : String → String)

theorem renameAll_literals (ls : List Sql.Literal) :
    Expr.renameAll σ (ls.map .literal) = ls.map .literal := by
  induction ls with
  | nil => rfl
  | cons l ls ih => rw [List.map_cons, Expr.renameAll, ih, Expr.rename]

/-- Renaming reaches the column of a flat predicate, and nothing else. -/
theorem Flat.rename_qualify {c : String} {e : Expr} (h : Flat (.column none c) e)
    (asName : String) : (e.qualify asName).rename σ = e.qualify (σ asName) := by
  cases h with
  | isNull negated => rfl
  | compare op hl => rfl
  | member hls =>
    rw [Expr.qualify, Expr.rename, renameAll_literals]
    rfl
  | never => rfl

theorem Part.IsFlat.rename_predicates {p : Part} (hp : p.IsFlat) (asName : String) :
    (p.predicates asName).map (Expr.rename σ) = p.predicates (σ asName) := by
  obtain ⟨field, column, - | e, order⟩ := p
  · rfl
  · exact congrArg (fun e => [e]) ((hp e rfl).rename_qualify σ asName)

end

/-! Renaming along paths -/

/-- If names differ, each can be renamed to what another naming gives in its place. -/
theorem exists_renaming {paths paths' : List (List String)} {f g : List String → String}
    (hf : (paths.map f).Nodup) (hg : (paths'.map g).Nodup) (hp : paths.Perm paths') :
    ∃ σ : String → String, (∀ path ∈ paths, σ (f path) = g path) ∧
      Set.BijOn σ {a | a ∈ paths.map f} {a | a ∈ paths'.map g} := by
  have hinj : Set.InjOn f {path | path ∈ paths} :=
    fun x hx y hy => List.inj_on_of_nodup_map hf hx hy
  obtain ⟨σ, hσ⟩ : ∃ σ : String → String, ∀ path ∈ paths, σ (f path) = g path :=
    ⟨fun a => g (Function.invFunOn f {path | path ∈ paths} a),
      fun path hm => congrArg g (hinj.leftInvOn_invFunOn hm)⟩
  refine ⟨σ, hσ, ?_, ?_, ?_⟩
  · intro a ha
    obtain ⟨path, hm, rfl⟩ := List.mem_map.1 ha
    rw [hσ path hm]
    exact List.mem_map_of_mem (hp.mem_iff.1 hm)
  · intro a ha b hb he
    obtain ⟨path, hm, rfl⟩ := List.mem_map.1 ha
    obtain ⟨path', hm', rfl⟩ := List.mem_map.1 hb
    rw [hσ path hm, hσ path' hm'] at he
    exact congrArg f (List.inj_on_of_nodup_map hg (hp.mem_iff.1 hm) (hp.mem_iff.1 hm') he)
  · intro b hb
    obtain ⟨path, hm, rfl⟩ := List.mem_map.1 hb
    have hm' := hp.mem_iff.2 hm
    exact ⟨f path, List.mem_map_of_mem hm', hσ path hm'⟩

section

variable {σ : String → String} {p p' : Plan Unit} {f g : List String → String}

theorem Plan.Permuted.paths (h : p.Permuted p') : p.paths.Perm p'.paths :=
  (h.hops.map Hop.path).cons []

/-- Renamed along the paths of a plan, its joins are those of the plan that takes the same hops. -/
theorem Plan.Permuted.joins (h : p.Permuted p') (hσ : ∀ path ∈ p.paths, σ (f path) = g path) :
    ((p.hops.map (Hop.join f)).map (Sql.Join.rename σ)).Perm (p'.hops.map (Hop.join g)) := by
  have hjoin : (p.hops.map (Hop.join f)).map (Sql.Join.rename σ) = p.hops.map (Hop.join g) := by
    rw [List.map_map]
    refine List.map_congr_left fun hop hm => ?_
    have hown := hσ hop.path (List.mem_cons_of_mem _ (List.mem_map_of_mem hm))
    have hparent := hσ hop.path.dropLast (Plan.dropLast_mem_paths hm)
    rw [Hop.join, ← hown, ← hparent]
    rfl
  rw [hjoin]
  exact h.hops.map _

theorem Plan.Permuted.predicates (h : p.Permuted p') (hflat : ∀ q ∈ p.parts, q.IsFlat)
    (hσ : ∀ path ∈ p.paths, σ (f path) = g path) :
    ((p.stops.flatMap fun s => s.part.predicates (f s.path)).map (Expr.rename σ)).Perm
      (p'.stops.flatMap fun s => s.part.predicates (g s.path)) := by
  have hstop : (p.stops.flatMap fun s => s.part.predicates (f s.path)).map (Expr.rename σ) =
      p.stops.flatMap fun s => s.part.predicates (g s.path) := by
    rw [List.map_flatMap]
    refine List.flatMap_congr fun s hm => ?_
    have hpart : s.part.IsFlat := by
      refine hflat _ ?_
      rw [← p.map_part_stops]
      exact List.mem_map_of_mem hm
    rw [hpart.rename_predicates, hσ _ (Plan.path_mem_paths hm)]
  rw [hstop]
  exact h.stops.flatMap_right _

/-- The path leads to a row of the entity. -/
def Ends (e : Entity) (hops : List Hop) (path : List String) (target : Entity) : Prop :=
  (path = [] ∧ target = e) ∨ ∃ hop ∈ hops, hop.path = path ∧ hop.target = target

/-- No other entity is at the end of the path, for a plan that takes the same hops. -/
theorem Ends.unique {e target target' : Entity} {path : List String} (h : p.Permuted p')
    (hpaths : (p.hops.map Hop.path).Nodup) (hp : Ends e p.hops path target)
    (hp' : Ends e p'.hops path target') : target = target' := by
  have hne {hop : Hop} (hm : hop ∈ p.hops) : hop.path ≠ [] := by
    obtain ⟨field, path, hp, -⟩ := Plan.path_of_mem_hops hm
    rw [hp]
    exact List.cons_ne_nil _ _
  rcases hp with ⟨hnil, rfl⟩ | ⟨hop, hm, hpath, rfl⟩
  · rcases hp' with ⟨-, rfl⟩ | ⟨hop', hm', hpath', -⟩
    · rfl
    · exact absurd (hpath'.trans hnil) (hne (h.hops.mem_iff.2 hm'))
  · rcases hp' with ⟨hnil, -⟩ | ⟨hop', hm', hpath', rfl⟩
    · exact absurd (hpath.trans hnil) (hne hm)
    · have heq := List.inj_on_of_nodup_map hpaths hm (h.hops.mem_iff.2 hm')
        (hpath.trans hpath'.symm)
      rw [heq]

theorem LeafTerm.exists_column {e : Entity} {hops : List Hop} {leaf : SortLeaf} {t : OrderTerm}
    (h : LeafTerm e hops f leaf t) :
    ∃ target c, Ends e hops leaf.path target ∧ c ∈ target.columns ∧ c.field = leaf.field ∧
      t = ⟨.column (some (f leaf.path)) c.column, leaf.direction⟩ := by
  cases h with
  | own d hc => exact ⟨e, _, .inl ⟨rfl, rfl⟩, hc, rfl, rfl⟩
  | joined d hh hc => exact ⟨_, _, .inr ⟨_, hh, rfl, rfl⟩, hc, rfl, rfl⟩

/-- The term of a leaf is renamed to the term that the other plan has for it. -/
theorem rename_leafTerm {e : Entity} {leaf : SortLeaf} {t t' : OrderTerm} (h : p.Permuted p')
    (hpaths : (p.hops.map Hop.path).Nodup) (hσ : ∀ path ∈ p.paths, σ (f path) = g path)
    (ht : LeafTerm e p.hops f leaf t) (ht' : LeafTerm e p'.hops g leaf t') :
    t.rename σ = t' := by
  obtain ⟨target, c, hends, hc, hfield, rfl⟩ := ht.exists_column
  obtain ⟨target', c', hends', hc', hfield', rfl⟩ := ht'.exists_column
  obtain rfl := hends.unique h hpaths hends'
  obtain rfl := List.inj_on_of_nodup_map target.nodup_fields hc hc' (hfield.trans hfield'.symm)
  have hpath : leaf.path ∈ p.paths := by
    rcases hends with ⟨hnil, -⟩ | ⟨hop, hm, hpath, -⟩
    · rw [hnil]
      exact List.mem_cons_self
    · rw [← hpath]
      exact List.mem_cons_of_mem _ (List.mem_map_of_mem hm)
  rw [← hσ _ hpath]
  rfl

theorem rename_leafTerms {e : Entity} {leaves : List SortLeaf} {ts ts' : List OrderTerm}
    (h : p.Permuted p') (hpaths : (p.hops.map Hop.path).Nodup)
    (hσ : ∀ path ∈ p.paths, σ (f path) = g path)
    (hts : List.Forall₂ (LeafTerm e p.hops f) leaves ts)
    (hts' : List.Forall₂ (LeafTerm e p'.hops g) leaves ts') :
    ts.map (OrderTerm.rename σ) = ts' := by
  induction hts generalizing ts' with
  | nil =>
    cases hts'
    rfl
  | cons ht _ ih =>
    cases hts' with
    | cons ht' hts' => rw [List.map_cons, rename_leafTerm h hpaths hσ ht ht', ih hts']

end

end Compile

end EntityQuery
