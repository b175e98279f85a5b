import EntityQuery.Proofs.Schema.Catalog
import EntityQuery.Proofs.Schema.Entity
import EntityQuery.Settings.Basic
import Mathlib.Data.List.Duplicate

/-!
Catalogs that settings describe. Settings make a catalog exactly if no entity has a field twice or a
field `id` of its own, and every reference is to an entity that has settings. The catalog then holds
each entity as its settings have it, and nothing else, in whatever order the entities are gone
through.
-/

namespace EntityQuery

/-! Columns added in turn -/

namespace Entity

variable {e e' : Entity} {cs : List Column} {err : CatalogError}

theorem addColumn_eq_ok_iff {c : Column} :
    e.addColumn c = .ok e' ↔
      ∃ h, e' = { e with others := e.others ++ [c], nodup := h } := by
  by_cases hc : c.field ∈ e.fields
  · rw [addColumn_of_mem hc]
    refine ⟨nofun, fun ⟨h, _⟩ => ?_⟩
    have hn := Entity.nodup_fields { e with others := e.others ++ [c], nodup := h }
    rw [fields_append, List.map_singleton] at hn
    exact ((List.nodup_append.1 hn).2.2 _ hc _ (List.mem_singleton.2 rfl) rfl).elim
  · rw [addColumn_of_notMem hc, Except.ok.injEq]
    exact ⟨fun h => ⟨nodup_append_field hc, h.symm⟩, fun ⟨_, h⟩ => h.symm⟩

theorem error_of_addColumn {c : Column} (h : e.addColumn c = .error err) :
    err = .duplicateField e.name c.field ∧ c.field ∈ e.fields := by
  by_cases hc : c.field ∈ e.fields
  · rw [addColumn_of_mem hc] at h
    cases h
    exact ⟨rfl, hc⟩
  · rw [addColumn_of_notMem hc] at h
    cases h

theorem eq_of_addColumns (h : e.addColumns cs = .ok e') :
    ∃ hn, e' = { e with others := e.others ++ cs, nodup := hn } := by
  induction cs generalizing e with
  | nil =>
    cases h
    simp only [List.append_nil]
    exact ⟨e'.nodup, trivial⟩
  | cons c cs ih =>
    rw [addColumns, List.foldlM_cons, bind_eq_ok_iff] at h
    obtain ⟨e₁, hc, hcs⟩ := h
    obtain ⟨hn₁, rfl⟩ := addColumn_eq_ok_iff.1 hc
    obtain ⟨hn, rfl⟩ := ih hcs
    simp only [List.append_assoc, List.singleton_append] at hn ⊢
    exact ⟨hn, trivial⟩

/-- What is refused is a field that stands twice, among those there are and those to come. -/
theorem error_of_addColumns (h : e.addColumns cs = .error err) :
    ∃ f, err = .duplicateField e.name f ∧ List.Duplicate f (e.fields ++ cs.map (·.field)) := by
  induction cs generalizing e with
  | nil => cases h
  | cons c cs ih =>
    rw [addColumns, List.foldlM_cons] at h
    rcases bind_eq_error_iff.1 h with hc | ⟨e₁, hc, hcs⟩
    · obtain ⟨rfl, hm⟩ := error_of_addColumn hc
      have hnext : c.field ∈ (c :: cs).map (·.field) := List.mem_cons_self
      have htwice := (List.singleton_sublist.2 hm).append (List.singleton_sublist.2 hnext)
      exact ⟨c.field, rfl, List.duplicate_iff_sublist.2 htwice⟩
    · obtain ⟨hn, rfl⟩ := addColumn_eq_ok_iff.1 hc
      obtain ⟨f, rfl, hf⟩ := ih hcs
      rw [fields_append, List.map_singleton, List.append_assoc] at hf
      exact ⟨f, rfl, hf⟩

end Entity

/-! Single entities -/

namespace EntitySettings

variable {s : EntitySettings} {name : String} {e : Entity} {err : CatalogError}

/-- The entity is the one of that name that the settings describe. -/
structure Describes (s : EntitySettings) (name : String) (e : Entity) : Prop where
  name : e.name = name
  table : e.table = s.table
  schema : e.schema = s.schema
  primaryKey : e.primaryKey = s.primaryKey.getD idField
  columns : e.columns = ⟨idField, s.primaryKey.getD idField, none⟩ ::
    s.columns.map fun c => ⟨c.field, c.column.getD c.field, c.references⟩

/-- All fields that the entity is to have. -/
def fields (s : EntitySettings) : List String := idField :: s.columns.map (·.field)

theorem Describes.fields (h : s.Describes name e) : e.fields = s.fields := by
  rw [Entity.fields, h.columns, List.map_cons, List.map_map]
  rfl

theorem describes_of_toEntity (h : s.toEntity name = .ok e) : s.Describes name e := by
  obtain ⟨hn, rfl⟩ := Entity.eq_of_addColumns h
  exact ⟨rfl, rfl, rfl, rfl, rfl⟩

theorem error_of_toEntity (h : s.toEntity name = .error err) :
    ∃ f, err = .duplicateField name f ∧ List.Duplicate f s.fields := by
  obtain ⟨f, rfl, hf⟩ := Entity.error_of_addColumns h
  rw [List.map_map] at hf
  exact ⟨f, rfl, hf⟩

theorem nodup_fields_of_toEntity (h : s.toEntity name = .ok e) : s.fields.Nodup := by
  rw [← (describes_of_toEntity h).fields]
  exact e.nodup_fields

end EntitySettings

namespace Catalog.Draft

theorem error_of_register {d : Draft} {e : Entity} {err : CatalogError}
    (h : d.register e = .error err) : e.name ∈ d.entities.map (·.name) := by
  unfold register at h
  split at h
  · assumption
  · cases h

theorem error_of_build {d : Draft} {err : CatalogError} (h : d.build = .error err) :
    ∃ e ∈ d.entities, ∃ c ∈ e.columns, ∃ t, c.references = some t ∧
      t ∉ d.entities.map (·.name) ∧ err = .unknownTarget e.name c.field t := by
  unfold build at h
  split at h
  · cases h
  · rename_i err' errs hd
    cases h
    have hm : err ∈ danglingReferences d.entities := by simp [hd]
    simp only [danglingReferences, List.mem_flatMap, List.mem_filterMap] at hm
    obtain ⟨e, he, c, hc, hdangling⟩ := hm
    unfold danglingColumn? at hdangling
    split at hdangling
    · rename_i t ht
      split at hdangling
      · cases hdangling
      · rename_i hn
        cases hdangling
        exact ⟨e, he, c, hc, t, ht, hn, rfl⟩
    · cases hdangling

end Catalog.Draft

namespace Settings

open Catalog (Draft)

/-! All entities -/

/-- The entry makes the entity. -/
def Makes (x : String × EntitySettings) (e : Entity) : Prop := x.2.toEntity x.1 = .ok e

theorem Makes.describes {x : String × EntitySettings} {e : Entity} (h : Makes x e) :
    x.2.Describes x.1 e := EntitySettings.describes_of_toEntity h

theorem forall₂_makes_of_foldlM {entries : List (String × EntitySettings)} {d d' : Draft}
    (h : entries.foldlM registerEntity d = .ok d') :
    ∃ es, d'.entities = d.entities ++ es ∧ List.Forall₂ Makes entries es := by
  induction entries generalizing d with
  | nil =>
    cases h
    exact ⟨[], (List.append_nil _).symm, .nil⟩
  | cons x entries ih =>
    rw [List.foldlM_cons, bind_eq_ok_iff] at h
    obtain ⟨d₁, hx, hentries⟩ := h
    obtain ⟨e, he, hr⟩ := bind_eq_ok_iff.1 hx
    obtain ⟨es, hes, hmakes⟩ := ih hentries
    rw [(Draft.register_eq_ok_iff.1 hr).2, List.append_assoc] at hes
    exact ⟨e :: es, hes, .cons he hmakes⟩

/-- Names that differ are never refused, so an error is about the fields of an entity. -/
theorem exists_toEntity_of_foldlM {entries : List (String × EntitySettings)} {d : Draft}
    {err : CatalogError} (hn : (d.entities.map (·.name) ++ entries.map (·.1)).Nodup)
    (h : entries.foldlM registerEntity d = .error err) :
    ∃ x ∈ entries, x.2.toEntity x.1 = .error err := by
  induction entries generalizing d with
  | nil => cases h
  | cons x entries ih =>
    rw [List.foldlM_cons] at h
    rcases bind_eq_error_iff.1 h with hx | ⟨d₁, hx, hentries⟩
    · rcases bind_eq_error_iff.1 hx with he | ⟨e, he, hr⟩
      · exact ⟨x, List.mem_cons_self, he⟩
      · have hm := Draft.error_of_register hr
        rw [(EntitySettings.describes_of_toEntity he).name] at hm
        exact ((List.nodup_append.1 hn).2.2 _ hm x.1 List.mem_cons_self rfl).elim
    · obtain ⟨e, he, hr⟩ := bind_eq_ok_iff.1 hx
      have hn₁ : (d₁.entities.map (·.name) ++ entries.map (·.1)).Nodup := by
        rwa [(Draft.register_eq_ok_iff.1 hr).2, List.map_append, List.map_singleton,
          (EntitySettings.describes_of_toEntity he).name, ← List.append_cons]
      obtain ⟨x', hx', he'⟩ := ih hn₁ hentries
      exact ⟨x', List.mem_cons_of_mem x hx', he'⟩

/-- The entities are those that the settings make, in some order. -/
structure Holds (s : Settings) (es : List Entity) : Prop where
  all : ∀ x ∈ s.entities.entries, ∃ e ∈ es, Makes x e
  only : ∀ e ∈ es, ∃ x ∈ s.entities.entries, Makes x e

theorem Holds.perm {s : Settings} {es es' : List Entity} (h : s.Holds es) (hp : es'.Perm es) :
    s.Holds es' where
  all x hx := by
    obtain ⟨e, he, hm⟩ := h.all x hx
    exact ⟨e, hp.mem_iff.2 he, hm⟩
  only e he := h.only e (hp.mem_iff.1 he)

theorem holds_of_forall₂ {s : Settings} {entries : List (String × EntitySettings)}
    {es : List Entity} (hp : entries.Perm s.entities.entries) (h : List.Forall₂ Makes entries es) :
    s.Holds es where
  all x hx := exists_of_forall₂ h.flip (hp.mem_iff.2 hx)
  only e he := by
    obtain ⟨x, hx, hm⟩ := exists_of_forall₂ h he
    exact ⟨x, hp.mem_iff.1 hx, hm⟩

section

variable {s : Settings} {es : List Entity} {name : String}

theorem Holds.mem_names_iff (h : s.Holds es) :
    name ∈ es.map (·.name) ↔ name ∈ s.entities.fields := by
  simp only [FieldMap.fields, List.mem_map]
  constructor
  · rintro ⟨e, he, rfl⟩
    obtain ⟨x, hx, hm⟩ := h.only e he
    exact ⟨x, hx, hm.describes.name.symm⟩
  · rintro ⟨x, hx, rfl⟩
    obtain ⟨e, he, hm⟩ := h.all x hx
    exact ⟨e, he, hm.describes.name⟩

/-! Faults -/

/-- No entity has a field twice, its own `id` included, and references are to entities that have
settings. -/
structure Sound (s : Settings) : Prop where
  fields : ∀ x ∈ s.entities.entries,
    (x.2.columns.map (·.field)).Nodup ∧ idField ∉ x.2.columns.map (·.field)
  references : ∀ x ∈ s.entities.entries, ∀ c ∈ x.2.columns, ∀ t, c.references = some t →
    t ∈ s.entities.fields

/-- What is wrong with the settings. -/
inductive Fault (s : Settings) : CatalogError → Prop
  | repeatedField {name es f} : (name, es) ∈ s.entities.entries → List.Duplicate f es.fields →
      Fault s (.duplicateField name f)
  | unknownTarget {name es c t} : (name, es) ∈ s.entities.entries → c ∈ es.columns →
      c.references = some t → t ∉ s.entities.fields → Fault s (.unknownTarget name c.field t)

theorem Sound.not_fault (h : s.Sound) {err : CatalogError} : ¬ s.Fault err := by
  rintro (⟨hx, hf⟩ | ⟨hx, hc, ht, hn⟩)
  · obtain ⟨hnodup, hid⟩ := h.fields _ hx
    exact hf.not_nodup (List.nodup_cons.2 ⟨hid, hnodup⟩)
  · exact hn (h.references _ hx _ hc _ ht)

theorem Holds.sound (h : s.Holds es) (hc : Closed es) : s.Sound where
  fields x hx := by
    obtain ⟨e, -, hm⟩ := h.all x hx
    exact (List.nodup_cons.1 (EntitySettings.nodup_fields_of_toEntity hm)).symm
  references x hx c hcol t ht := by
    obtain ⟨e, he, hm⟩ := h.all x hx
    refine h.mem_names_iff.1 (hc e he ⟨c.field, c.column.getD c.field, c.references⟩ ?_ t ht)
    rw [hm.describes.columns]
    exact List.mem_cons_of_mem _ (List.mem_map_of_mem hcol)

/-- The column of `id` references nothing, so a dangling column is one of the settings. -/
theorem Holds.fault {d : Draft} (h : s.Holds d.entities) {err : CatalogError}
    (hb : d.build = .error err) : s.Fault err := by
  obtain ⟨e, he, c, hc, t, ht, hn, rfl⟩ := Draft.error_of_build hb
  obtain ⟨⟨name, es⟩, hx, hm⟩ := h.only e he
  rw [hm.describes.columns, List.mem_cons, List.mem_map] at hc
  rcases hc with rfl | ⟨c, hc, rfl⟩
  · cases ht
  · rw [hm.describes.name]
    exact .unknownTarget hx hc ht (mt h.mem_names_iff.2 hn)

/-! Runs -/

/-- What may come of the settings. Their entities are registered in any order, and in any other
order the references are checked. -/
inductive Run (s : Settings) : Except CatalogError Catalog → Prop
  | refused {entries : List (String × EntitySettings)} {err} : entries.Perm s.entities.entries →
      entries.foldlM registerEntity .empty = .error err → Run s (.error err)
  | checked {entries : List (String × EntitySettings)} {d d' : Draft} :
      entries.Perm s.entities.entries → entries.foldlM registerEntity .empty = .ok d →
      d'.entities.Perm d.entities → Run s d'.build

/-- The order of the entries, twice. -/
theorem exists_run (s : Settings) : ∃ r, s.Run r ∧ s.catalog = r.mapError .catalog := by
  cases h : s.entities.entries.foldlM registerEntity .empty with
  | error err =>
    refine ⟨_, .refused (.refl _) h, ?_⟩
    rw [catalog, h]
    rfl
  | ok d =>
    refine ⟨_, .checked (.refl _) h (.refl _), ?_⟩
    rw [catalog, h]
    rfl

theorem Run.fault (hs : s.entities.Distinct) {err : CatalogError} (h : s.Run (.error err)) :
    s.Fault err := by
  generalize hr : Except.error err = r at h
  cases h with
  | @refused entries err hp h =>
    cases hr
    have hn : (entries.map (·.1)).Nodup := (hp.map _).nodup_iff.2 hs
    obtain ⟨⟨name, es⟩, hx, he⟩ := exists_toEntity_of_foldlM (d := .empty) hn h
    obtain ⟨f, rfl, hf⟩ := EntitySettings.error_of_toEntity he
    exact .repeatedField (hp.mem_iff.1 hx) hf
  | checked hp h hd =>
    obtain ⟨es, hes, hmakes⟩ := forall₂_makes_of_foldlM h
    rw [hes] at hd
    exact ((holds_of_forall₂ hp hmakes).perm hd).fault hr.symm

theorem Run.holds {c : Catalog} (h : s.Run (.ok c)) : s.Holds c.entities := by
  generalize hr : Except.ok c = r at h
  cases h with
  | refused => cases hr
  | checked hp h hd =>
    obtain ⟨es, hes, hmakes⟩ := forall₂_makes_of_foldlM h
    rw [hes] at hd
    rw [(Draft.build_eq_ok_iff.1 hr.symm).2]
    exact (holds_of_forall₂ hp hmakes).perm hd

theorem Run.exists_ok_iff (hs : s.entities.Distinct) {r : Except CatalogError Catalog}
    (h : s.Run r) : (∃ c, r = .ok c) ↔ s.Sound := by
  cases r with
  | ok c => exact ⟨fun _ => h.holds.sound c.closed, fun _ => ⟨c, rfl⟩⟩
  | error err => exact ⟨nofun, fun hsound => (hsound.not_fault (h.fault hs)).elim⟩

theorem Holds.entity?_iff {c : Catalog} (h : s.Holds c.entities) {e : Entity} :
    c.entity? name = some e ↔ ∃ es, (name, es) ∈ s.entities.entries ∧ Makes (name, es) e := by
  rw [Catalog.entity?_eq_some_iff]
  constructor
  · rintro ⟨he, rfl⟩
    obtain ⟨⟨name, es⟩, hx, hm⟩ := h.only e he
    rw [hm.describes.name]
    exact ⟨es, hx, hm⟩
  · rintro ⟨es, hx, hm⟩
    obtain ⟨e', he', hm'⟩ := h.all _ hx
    obtain rfl : e = e' := by
      rw [Makes, hm'] at hm
      exact (Except.ok.inj hm).symm
    exact ⟨he', hm.describes.name⟩

/-- The catalog holds the entities that the settings describe, and no others. -/
structure Describes (s : Settings) (c : Catalog) : Prop where
  configured : ∀ name es, s.entities.get? name = some es →
    ∃ e, c.entity? name = some e ∧ es.Describes name e
  absent : ∀ name, s.entities.get? name = none → c.entity? name = none

theorem Holds.describes {c : Catalog} (h : s.Holds c.entities) : s.Describes c where
  configured name es hes := by
    have hx := FieldMap.mem_of_get? hes
    obtain ⟨e, -, hm⟩ := h.all _ hx
    exact ⟨e, h.entity?_iff.2 ⟨es, hx, hm⟩, hm.describes⟩
  absent name hnone := by
    rw [Catalog.entity?_eq_none_iff, h.mem_names_iff]
    exact FieldMap.get?_eq_none_iff.1 hnone

/-- Settings come to a catalog exactly if their fields do not repeat and their references are to
entities that have settings, and then to one that holds what they describe. Whichever order the
entities are gone through in decides at most which fault is told of, and it is never that of a
name that stands twice. -/
theorem describes_catalog (s : Settings) (hs : s.entities.Distinct) :
    (∃ r, s.Run r ∧ s.catalog = r.mapError .catalog) ∧
    (∀ r, s.Run r →
      ((∃ c, r = .ok c) ↔ s.Sound) ∧
      (∀ c, r = .ok c → s.Describes c) ∧
      ∀ err, r = .error err → s.Fault err ∧ ∀ name, err ≠ .duplicateEntity name) ∧
    ∀ r r', s.Run r → s.Run r' →
      ((∃ c, r = .ok c) ↔ ∃ c, r' = .ok c) ∧
      ∀ c c', r = .ok c → r' = .ok c' → c.entity? = c'.entity? := by
  refine ⟨s.exists_run, fun r h => ⟨h.exists_ok_iff hs, ?_, ?_⟩, fun r r' h h' => ⟨?_, ?_⟩⟩
  · rintro c rfl
    exact h.holds.describes
  · rintro err rfl
    have hf := h.fault hs
    refine ⟨hf, ?_⟩
    rintro name rfl
    cases hf
  · rw [h.exists_ok_iff hs, h'.exists_ok_iff hs]
  · rintro c c' rfl rfl
    funext name
    ext e
    rw [h.holds.entity?_iff, h'.holds.entity?_iff]

end

end Settings

namespace Staff

/-- The settings of teams and people. Both leave the primary key to be called like its field, and
so does the age of people. -/
def settings : Settings where
  entities := ⟨[
    ("Team", { table := "teams", columns := [⟨"lead", some "lead_id", some "Person"⟩] }),
    ("Person", {
      table := "people"
      schema := some "hr"
      columns := [⟨"name", some "full_name", none⟩, ⟨"age", none, none⟩,
        ⟨"manager", some "manager_id", some "Person"⟩,
        ⟨"mentor", some "mentor_id", some "Person"⟩] })]⟩

theorem describes_settings :
    settings.entities.Distinct ∧ settings.catalog = .ok catalog ∧ settings.Sound ∧
    settings.Describes catalog ∧ ∀ r, settings.Run r → ∃ c, r = .ok c := by
  have hs : settings.entities.Distinct := by decide
  have hcatalog : settings.catalog = .ok catalog := rfl
  obtain ⟨⟨r, hr, hcatalog'⟩, hruns, hagree⟩ := settings.describes_catalog hs
  have hok : r = .ok catalog := mapError_eq_ok_iff.1 (hcatalog'.symm.trans hcatalog)
  obtain ⟨hsound, hdescribes, -⟩ := hruns r hr
  refine ⟨hs, hcatalog, hsound.1 ⟨catalog, hok⟩, hdescribes catalog hok, fun r' hr' => ?_⟩
  exact (hagree r r' hr hr').1.1 ⟨catalog, hok⟩

end Staff

end EntityQuery
