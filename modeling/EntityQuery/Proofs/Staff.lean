import EntityQuery.Compile.Query
import EntityQuery.Proofs.Compile.Scope

/-!
A small catalog that refers to itself: people, each with a manager and a mentor who are people too;
and a spec that reaches several of them.
-/

namespace EntityQuery.Staff

open EntityQuery.Compile (Scope)
open EntityQuery.Sql (Query)

def person : Entity where
  name := "Person"
  table := "people"
  schema := some "hr"
  others := [⟨"name", "full_name", none⟩, ⟨"age", "age", none⟩,
    ⟨"manager", "manager_id", some "Person"⟩, ⟨"mentor", "mentor_id", some "Person"⟩]
  nodup := by decide

def schema : Schema
  | "Person" => some person
  | _ => none

/-- Called O'Hara, fifty or sixty years old, and managed by someone. -/
def managers : Filter :=
  ⟨[("name", .value (.string "O'Hara")), ("age", .list [.int 50, .int 60]),
    ("manager", .nested ⟨[]⟩)]⟩

/-- Called Eve or Zoe, and of some age. -/
def mentors : Filter :=
  ⟨[("name", .compare .inList (.list [.string "Eve", .string "Zoe"])),
    ("age", .compare .ne .null)]⟩

/-- People over thirty whose name begins with an A, with such a manager and such a mentor; sorted by
their mentor's name, and without the first twenty. -/
def spec : Spec where
  filter := ⟨[("id", .absent), ("name", .compare .like (.string "A%")),
    ("age", .compare .gt (.int 30)), ("manager", .nested managers), ("mentor", .nested mentors)]⟩
  order := ⟨[("mentor", .nested ⟨[("name", .direction .asc)]⟩)]⟩
  offset := some 20

def query : Query where
  select := [.star (some "p0")]
  source := some ⟨"people", some "hr", some "p0"⟩
  joins := [
    ⟨⟨"people", some "hr", some "p1"⟩,
      .compare .eq (.column (some "p0") "mentor_id") (.column (some "p1") "id")⟩,
    ⟨⟨"people", some "hr", some "p2"⟩,
      .compare .eq (.column (some "p0") "manager_id") (.column (some "p2") "id")⟩,
    ⟨⟨"people", some "hr", some "p3"⟩,
      .compare .eq (.column (some "p2") "manager_id") (.column (some "p3") "id")⟩]
  predicates := [
    .inList (.column (some "p1") "full_name") [.literal (.string "Eve"), .literal (.string "Zoe")],
    .isNull (.column (some "p1") "age") true,
    .compare .like (.column (some "p0") "full_name") (.literal (.string "A%")),
    .compare .gt (.column (some "p0") "age") (.literal (.int 30)),
    .compare .eq (.column (some "p2") "full_name") (.literal (.string "O'Hara")),
    .inList (.column (some "p2") "age") [.literal (.int 50), .literal (.int 60)]]
  order := [⟨.column (some "p1") "full_name", .asc⟩, ⟨.column (some "p0") "id", .asc⟩]
  page := some { limit := some 10, offset := some 20 }

theorem toQuery_spec : spec.toQuery schema .plain 10 "Person" = .ok query := by rfl

theorem distinct_spec : Scope.Distinct ⟨spec.filter, spec.order⟩ := by
  have mentor : Scope.Distinct ⟨mentors, ⟨[("name", .direction .asc)]⟩⟩ :=
    .intro (by decide) (by decide)
      (List.forall_mem_cons.2 ⟨.empty, List.forall_mem_singleton.2 .empty⟩)
  have manager : Scope.Distinct ⟨managers, .empty⟩ :=
    .intro (by decide) (by decide)
      (List.forall_mem_cons.2 ⟨.empty, List.forall_mem_cons.2 ⟨.empty,
        List.forall_mem_singleton.2 .empty⟩⟩)
  have hn : Scope.named ⟨spec.filter, spec.order⟩ =
      [⟨"mentor", .nested mentors, some (.nested ⟨[("name", .direction .asc)]⟩)⟩,
        ⟨"id", .absent, none⟩, ⟨"name", .compare .like (.string "A%"), none⟩,
        ⟨"age", .compare .gt (.int 30), none⟩, ⟨"manager", .nested managers, none⟩] := by rfl
  refine .intro (by decide) (by decide) ?_
  rw [hn]
  refine List.forall_mem_cons.2 ⟨mentor, List.forall_mem_cons.2 ⟨.empty, ?_⟩⟩
  refine List.forall_mem_cons.2 ⟨.empty, List.forall_mem_cons.2 ⟨.empty, ?_⟩⟩
  exact List.forall_mem_singleton.2 manager

end EntityQuery.Staff
