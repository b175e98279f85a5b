import EntityQuery.Proofs.Acceptance.WellTyped

/-!
The order in which a scope is compiled. It makes one demand for each field that is visited, here and
below, and the demands are met in turn: the error of a scope is that of the first demand that cannot
be met, and whatever comes after it is not looked at.
-/

namespace EntityQuery.Compile

/-- A field that is visited, and the entity that it is looked up in. -/
structure Demand where
  entity : Entity
  named : Named

namespace Demand

variable {schema : Schema} {codec : Codec} {d : Demand}

/-- What meeting the demand comes to. -/
def meet (schema : Schema) (codec : Codec) (d : Demand) :
    Except CompileError (Part × Option Entity) :=
  planField schema codec d.entity d.named.field d.named.clause d.named.order

def IsMet (schema : Schema) (codec : Codec) (d : Demand) : Prop := ∃ r, d.meet schema codec = .ok r

theorem IsMet.ne_error (h : d.IsMet schema codec) {err : CompileError} :
    d.meet schema codec ≠ .error err := by
  obtain ⟨r, hr⟩ := h
  rw [hr]
  nofun

end Demand

/-- The demand of a field, then those of the row that it leads to. -/
def Named.demands (schema : Schema) (e : Entity) (n : Named) (onward : Entity → List Demand) :
    List Demand :=
  ⟨e, n⟩ ::
    match n.hop? schema e with
    | some (_, related) => onward related
    | none => []

/-- The demands of a scope in the order of the visits. -/
def Scope.demands (schema : Schema) (e : Entity) (s : Scope) : List Demand :=
  s.named.attach.flatMap fun n =>
    n.1.demands schema e fun related => demands schema related n.1.below
termination_by s
decreasing_by exact Scope.sizeOf_below_lt n.2

theorem Scope.demands_eq (schema : Schema) (e : Entity) (s : Scope) :
    s.demands schema e = s.named.flatMap fun n =>
      n.demands schema e fun related => n.below.demands schema related := by
  have h := List.flatMap_map Subtype.val
    (fun n : Named => n.demands schema e fun related => n.below.demands schema related)
    s.named.attach
  rw [List.attach_map_subtype_val] at h
  rw [demands, h]

/-- The demands of one field of a scope. -/
def Named.ownDemands (schema : Schema) (e : Entity) (n : Named) : List Demand :=
  n.demands schema e fun related => n.below.demands schema related

section

variable {schema : Schema} {codec : Codec} {e : Entity} {n : Named} {part : Part}

theorem Named.ownDemands_of_own
    (h : planField schema codec e n.field n.clause n.order = .ok (part, none)) :
    n.ownDemands schema e = [⟨e, n⟩] := by
  rw [ownDemands, demands, hop?_of_planField h]
  rfl

theorem Named.ownDemands_of_related {related : Entity}
    (h : planField schema codec e n.field n.clause n.order = .ok (part, some related)) :
    n.ownDemands schema e = ⟨e, n⟩ :: n.below.demands schema related := by
  rw [ownDemands, demands, hop?_of_planField h]
  rfl

end

/-! The first failure -/

/-- The error is that of the first demand that is not met. -/
def FirstFailure (schema : Schema) (codec : Codec) (ds : List Demand) (err : CompileError) : Prop :=
  ∃ before d after, ds = before ++ d :: after ∧ (∀ b ∈ before, b.IsMet schema codec) ∧
    d.meet schema codec = .error err

namespace FirstFailure

variable {schema : Schema} {codec : Codec} {ds ds' : List Demand} {d : Demand} {err : CompileError}

theorem head (h : d.meet schema codec = .error err) : FirstFailure schema codec (d :: ds) err :=
  ⟨[], d, ds, rfl, by simp, h⟩

theorem append_left (h : FirstFailure schema codec ds err) :
    FirstFailure schema codec (ds ++ ds') err := by
  obtain ⟨before, d, after, rfl, hb, hd⟩ := h
  exact ⟨before, d, after ++ ds', by simp, hb, hd⟩

theorem append_right (hds : ∀ d ∈ ds, d.IsMet schema codec)
    (h : FirstFailure schema codec ds' err) : FirstFailure schema codec (ds ++ ds') err := by
  obtain ⟨before, d, after, rfl, hb, hd⟩ := h
  exact ⟨ds ++ before, d, after, by simp, List.forall_mem_append.2 ⟨hds, hb⟩, hd⟩

/-- A demand that cannot be met is not passed by: it fails itself, unless one before it does. -/
theorem of_split {before after : List Demand} {cause : CompileError}
    (h : FirstFailure schema codec (before ++ d :: after) err)
    (hd : d.meet schema codec = .error cause) :
    err = cause ∨ ∃ b ∈ before, b.meet schema codec = .error err := by
  obtain ⟨met, d', rest, hsplit, hmet, hfail⟩ := h
  rcases List.append_eq_append_iff.1 hsplit with ⟨between, rfl, hrest⟩ | ⟨between, rfl, hrest⟩
  · rcases List.cons_eq_append_iff.1 hrest with ⟨rfl, hrest⟩ | ⟨between, rfl, -⟩
    · cases hrest
      exact .inl (Except.error.inj (hfail.symm.trans hd))
    · exact absurd hd (hmet d (by simp)).ne_error
  · rcases List.cons_eq_append_iff.1 hrest with ⟨rfl, hrest⟩ | ⟨between, rfl, -⟩
    · cases hrest
      exact .inl (Except.error.inj (hfail.symm.trans hd))
    · exact .inr ⟨d', by simp, hfail⟩

end FirstFailure

/-! Plans -/

section

variable {schema : Schema} {codec : Codec} {e : Entity}

theorem Planned.isMet {ns : List Named} {p : Plan Unit} (h : Planned schema codec e ns p) :
    ∀ d ∈ ns.flatMap (Named.ownDemands schema e), d.IsMet schema codec := by
  induction h with
  | done => simp
  | field hf hr ih =>
    rw [List.flatMap_cons, Named.ownDemands_of_own hf]
    exact List.forall_mem_cons.2 ⟨⟨_, hf⟩, ih⟩
  | join hf hb hr ihb ih =>
    rw [List.flatMap_cons, Named.ownDemands_of_related hf, Scope.demands_eq]
    exact List.forall_mem_cons.2 ⟨⟨_, hf⟩, List.forall_mem_append.2 ⟨ihb, ih⟩⟩

/-- If there is a plan of a scope, all its demands are met. -/
theorem isMet_of_plan (s : Scope) {p : Plan Unit} (h : plan schema codec e s = .ok p) :
    ∀ d ∈ s.demands schema e, d.IsMet schema codec := by
  rw [Scope.demands_eq]
  exact (planned_of_plan s h).isMet

theorem firstFailure_of_planAll {ns : List Named} {err : CompileError}
    (hbelow : ∀ n ∈ ns, ∀ related, plan schema codec related n.below = .error err →
      FirstFailure schema codec (n.below.demands schema related) err)
    (h : planAll schema codec e (ns.map Named.toVisit) = .error err) :
    FirstFailure schema codec (ns.flatMap (Named.ownDemands schema e)) err := by
  induction ns with
  | nil =>
    rw [List.map_nil, planAll] at h
    cases h
  | cons n ns ih =>
    obtain ⟨hn, hns⟩ := List.forall_mem_cons.1 hbelow
    rw [List.map_cons, Named.toVisit] at h
    rw [List.flatMap_cons]
    -- the field fails, or the scope below it, or the fields after it
    rcases planAll_cons_error h with hf | ⟨part, related, hf, hb⟩ | ⟨part, hf, hr⟩ |
      ⟨part, related, inner, hf, hb, hr⟩
    · exact .head hf
    · have hmet : Demand.IsMet schema codec ⟨e, n⟩ := ⟨_, hf⟩
      rw [Named.ownDemands_of_related hf]
      exact .append_left (.append_right (List.forall_mem_singleton.2 hmet) (hn related hb))
    · have hmet : Demand.IsMet schema codec ⟨e, n⟩ := ⟨_, hf⟩
      rw [Named.ownDemands_of_own hf]
      exact .append_right (List.forall_mem_singleton.2 hmet) (ih hns hr)
    · have hmet : Demand.IsMet schema codec ⟨e, n⟩ := ⟨_, hf⟩
      rw [Named.ownDemands_of_related hf]
      exact .append_right (List.forall_mem_cons.2 ⟨hmet, isMet_of_plan _ hb⟩) (ih hns hr)

/-- A scope without a plan fails with its first demand that is not met. -/
theorem firstFailure_of_plan (s : Scope) {err : CompileError}
    (h : plan schema codec e s = .error err) :
    FirstFailure schema codec (s.demands schema e) err := by
  induction s using Scope.induction generalizing e with
  | step s ih =>
    rw [plan, Visit.ofScope_eq_map] at h
    rw [Scope.demands_eq]
    exact firstFailure_of_planAll (fun n hn related hp => ih n hn hp) h

end

end EntityQuery.Compile
