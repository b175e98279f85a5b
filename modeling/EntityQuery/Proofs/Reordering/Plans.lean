import EntityQuery.Proofs.Compile.Branches
import EntityQuery.Proofs.Compile.Stops
import EntityQuery.Proofs.Reordering.Filters

/-!
Plans of reordered filters. Every field has the same branch, up to the order below it, so one filter
can be planned if the other can, and both plans take the same hops and make the same stops.
-/

namespace EntityQuery.Compile

/-- The plans take the same hops and make the same stops, perhaps in another order. -/
structure Plan.Permuted (p p' : Plan Unit) : Prop where
  hops : p.hops.Perm p'.hops
  stops : p.stops.Perm p'.stops

namespace Branch

def hops (b : Branch) : List Hop :=
  b.joined.elim [] fun x =>
    ⟨[b.part.field], b.part.column, x.1⟩ :: x.2.hops.map (Hop.under b.part.field)

def stops (b : Branch) : List Stop :=
  ⟨[], b.part⟩ :: b.joined.elim [] fun x => x.2.stops.map (Stop.under b.part.field)

/-- The same for branches. -/
structure Permuted (b b' : Branch) : Prop where
  hops : b.hops.Perm b'.hops
  stops : b.stops.Perm b'.stops

theorem hops_before (b : Branch) (rest : Plan Unit) :
    (b.before rest).hops = b.hops ++ rest.hops := by
  obtain ⟨part, - | ⟨related, below⟩⟩ := b <;> rfl

theorem stops_before (b : Branch) (rest : Plan Unit) :
    (b.before rest).stops = b.stops ++ rest.stops := by
  obtain ⟨part, - | ⟨related, below⟩⟩ := b <;> rfl

end Branch

theorem Plan.hops_ofBranches (bs : List Branch) :
    (ofBranches bs).hops = bs.flatMap Branch.hops := by
  induction bs with
  | nil => rfl
  | cons b bs ih => rw [ofBranches, Branch.hops_before, ih, List.flatMap_cons]

theorem Plan.stops_ofBranches (bs : List Branch) :
    (ofBranches bs).stops = bs.flatMap Branch.stops := by
  induction bs with
  | nil => rfl
  | cons b bs ih => rw [ofBranches, Branch.stops_before, ih, List.flatMap_cons]

/-- Neither the order of branches matters to hops and stops, nor the order below them. -/
theorem Plan.permuted_ofBranches {bs bs' bs'' : List Branch}
    (h : List.Forall₂ Branch.Permuted bs bs') (hp : bs'.Perm bs'') :
    (ofBranches bs).Permuted (ofBranches bs'') := by
  have hbelow : (bs.flatMap Branch.hops).Perm (bs'.flatMap Branch.hops) ∧
      (bs.flatMap Branch.stops).Perm (bs'.flatMap Branch.stops) := by
    clear hp
    induction h with
    | nil => exact ⟨.nil, .nil⟩
    | cons hb _ ih => exact ⟨hb.hops.append ih.1, hb.stops.append ih.2⟩
  constructor
  · rw [hops_ofBranches, hops_ofBranches]
    exact hbelow.1.trans (hp.flatMap_right _)
  · rw [stops_ofBranches, stops_ofBranches]
    exact hbelow.2.trans (hp.flatMap_right _)

section

variable {schema : Schema} {codec : Codec} {e : Entity}

/-- A field is planned without a look at the filter below it. -/
theorem planField_reordered {c c' : Clause} (h : c.Reordered c') (field : String)
    (order : Option SortClause) :
    planField schema codec e field c' order = planField schema codec e field c order := by
  cases h <;> rfl

theorem branch_reordered {n n' : Named} (h : n.Reordered n')
    (hbelow : ∀ related p, plan schema codec related n.below = .ok p →
      ∃ p', plan schema codec related n'.below = .ok p' ∧ p.Permuted p')
    {b : Branch} (hb : n.branch schema codec e = .ok b) :
    ∃ b', n'.branch schema codec e = .ok b' ∧ b.Permuted b' := by
  have hfield : planField schema codec e n'.field n'.clause n'.order =
      planField schema codec e n.field n.clause n.order := by
    rw [h.field, h.order, planField_reordered h.clause]
  rw [Named.branch, bind_eq_ok_iff] at hb
  obtain ⟨⟨part, - | related⟩, hf, hb⟩ := hb
  · cases hb
    refine ⟨⟨part, none⟩, ?_, .refl _, .refl _⟩
    rw [Named.branch, hfield, hf]
    rfl
  · obtain ⟨p, hp, hb⟩ := bind_eq_ok_iff.1 hb
    cases hb
    obtain ⟨p', hp', hperm⟩ := hbelow related p hp
    refine ⟨⟨part, some (related, p')⟩, ?_, ?_, ?_⟩
    · rw [Named.branch, bind_eq_ok_iff]
      exact ⟨_, hfield.trans hf, bind_eq_ok_iff.2 ⟨p', hp', rfl⟩⟩
    · exact (hperm.hops.map _).cons _
    · exact (hperm.stops.map _).cons _

theorem branches_reordered {ns ns' : List Named} {bs : List Branch}
    (hbelow : ∀ n ∈ ns, ∀ n', n.Reordered n' → ∀ b, n.branch schema codec e = .ok b →
      ∃ b', n'.branch schema codec e = .ok b' ∧ b.Permuted b')
    (h : List.Forall₂ Named.Reordered ns ns')
    (hbs : List.Forall₂ (fun n b => n.branch schema codec e = .ok b) ns bs) :
    ∃ bs', List.Forall₂ (fun n b => n.branch schema codec e = .ok b) ns' bs' ∧
      List.Forall₂ Branch.Permuted bs bs' := by
  induction h generalizing bs with
  | nil =>
    cases hbs
    exact ⟨[], .nil, .nil⟩
  | cons hr _ ih =>
    obtain ⟨hn, hns⟩ := List.forall_mem_cons.1 hbelow
    cases hbs with
    | cons hb hbs =>
      obtain ⟨b', hb', hperm⟩ := hn _ hr _ hb
      obtain ⟨bs', hbs', hperms⟩ := ih hns hbs
      exact ⟨b' :: bs', .cons hb' hbs', .cons hperm hperms⟩

/-- If a scope can be planned, so can a reordered one, with the same hops and stops. -/
theorem plan_reordered {s : Scope} (hs : s.Distinct) {f : Filter}
    (h : Filter.Reordered s.filter.entries f.entries) {p : Plan Unit}
    (hp : plan schema codec e s = .ok p) :
    ∃ p', plan schema codec e ⟨f, s.order⟩ = .ok p' ∧ p.Permuted p' := by
  induction hs generalizing e f p with
  | @intro s hf ho hb ih =>
    obtain ⟨bs, hbs, rfl⟩ := plan_eq_ok_iff.1 hp
    obtain ⟨ns, hns, hperm⟩ := Scope.exists_named_perm h hf s.order
    -- what is below a field is reordered first, by the induction, and then the fields themselves
    have hbelow : ∀ n ∈ s.named, ∀ n', n.Reordered n' → ∀ b, n.branch schema codec e = .ok b →
        ∃ b', n'.branch schema codec e = .ok b' ∧ b.Permuted b' := by
      refine fun n hn n' hr b hb => branch_reordered hr (fun related p hp => ?_) hb
      have hn' := ih n hn hr.filterBelow hp
      rwa [← hr.orderBelow] at hn'
    obtain ⟨bs', hbs', hpermuted⟩ := branches_reordered hbelow hns hbs
    obtain ⟨bs'', hbs'', hperm'⟩ := List.perm_comp_forall₂ hperm.symm hbs'
    exact ⟨Plan.ofBranches bs'', plan_eq_ok_iff.2 ⟨bs'', hbs'', rfl⟩,
      Plan.permuted_ofBranches hpermuted hperm'.symm⟩

end

end EntityQuery.Compile
