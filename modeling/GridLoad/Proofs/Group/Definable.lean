import GridLoad.Group.Catalog
import GridLoad.Proofs.Decimal.Exact
import GridLoad.Proofs.Table
import GridLoad.Sample

/-!
Which definitions make a catalog, and what it then holds. Each is checked by itself and against those before it, and all of
them once more for a virtual zone within a virtual zone; together this comes to conditions that do not speak of an order.
-/

set_option autoImplicit false

namespace GridLoad

-- A definition that is in order by itself.
structure Group.Proper (g : Group) : Prop where
  named : Text.allBlank g.id = false
  several : 2 ≤ g.members.length
  distinct : g.memberIds.Nodup
  others : ∀ m ∈ g.members, m.zone ≠ g.id
  weights : ∀ m ∈ g.members, m.weight.isFinite = true ∧ 0 ≤ Decimal.exact m.weight

-- Definitions under ids of their own, none of which is made of another.
structure Definable (definitions : List Group) : Prop where
  proper : ∀ g ∈ definitions, g.Proper
  distinct : (definitions.map (·.id)).Nodup
  flat : ∀ g ∈ definitions, ∀ m ∈ g.members, ∀ other ∈ definitions, m.zone ≠ other.id

section Checks

variable {ε α : Type} {id : String} {seen : List String} {members : List Member} {g : Group}

theorem unless_passes {wrong : Prop} [Decidable wrong] {fault : ε} {next : Except ε α} {y : α} :
    (if wrong then .error fault else next) = .ok y ↔ ¬ wrong ∧ next = .ok y := by
  by_cases bad : wrong
  · simp [bad]
  · simp [bad]

-- A member is compared with those before it, so no two are alike.
theorem members_pass : Group.checkMembers id seen members = .ok () ↔
    (∀ m ∈ members, m.zone ≠ id ∧ m.zone ∉ seen ∧ m.weight.isFinite = true ∧ 0 ≤ Decimal.exact m.weight) ∧
      (members.map (·.zone)).Nodup := by
  induction members generalizing seen with
  | nil => simp [Group.checkMembers]
  | cons m rest ih =>
      rw [List.forall_mem_cons, List.map_cons, List.nodup_cons]
      simp only [Group.checkMembers, unless_passes, ih, Decimal.finite_nonneg, List.contains_iff_mem, List.mem_cons,
        List.mem_map, not_or]
      constructor
      · rintro ⟨other, unseen, weight, rest, distinct⟩
        refine ⟨⟨⟨other, unseen, weight⟩, fun m' member => ?_⟩, ?_, distinct⟩
        · obtain ⟨other', ⟨_, unseen'⟩, weight'⟩ := rest m' member
          exact ⟨other', unseen', weight'⟩
        · rintro ⟨m', member, same⟩
          exact (rest m' member).2.1.1 same
      · rintro ⟨⟨⟨other, unseen, weight⟩, rest⟩, once, distinct⟩
        refine ⟨other, unseen, weight, fun m' member => ?_, distinct⟩
        obtain ⟨other', unseen', weight'⟩ := rest m' member
        exact ⟨other', ⟨fun same => once ⟨m', member, same⟩, unseen'⟩, weight'⟩

theorem group_passes : g.check = .ok () ↔ g.Proper := by
  simp only [Group.check, unless_passes, members_pass, Bool.not_eq_true, Nat.not_lt, List.not_mem_nil, not_false_eq_true,
    true_and]
  constructor
  · rintro ⟨named, several, members, distinct⟩
    exact ⟨named, several, distinct, fun m member => (members m member).1, fun m member => (members m member).2⟩
  · rintro ⟨named, several, distinct, others, weights⟩
    exact ⟨named, several, fun m member => ⟨others m member, weights m member⟩, distinct⟩

end Checks

namespace Catalog

section

variable {groups collected : Table String Group} {definitions others : List Group} {c : Catalog}

-- A definition with its id.
def entry (g : Group) : String × Group := (g.id, g)

-- Each definition finds its id free, which the ones before it would have taken.
theorem collect_passes : collect groups definitions = .ok collected ↔
    (∀ g ∈ definitions, g.check = .ok () ∧ groups.contains g.id = false) ∧ (definitions.map (·.id)).Nodup ∧
      (definitions.map entry).foldl (fun t e => t.insert e.1 e.2) groups = collected := by
  induction definitions generalizing groups with
  | nil => simp [collect]
  | cons g rest ih =>
      cases checked : g.check with
      | error fault => simp [collect, checked]
      | ok =>
          simp only [collect, checked, unless_passes, ih, Table.contains_insert, List.forall_mem_cons, List.map_cons,
            List.nodup_cons, List.mem_map, List.foldl_cons, entry, Bool.or_eq_false_iff, decide_eq_false_iff_not,
            Bool.not_eq_true, true_and]
          constructor
          · rintro ⟨free, rest, distinct, entered⟩
            refine ⟨⟨free, fun h member => ⟨(rest h member).1, (rest h member).2.2⟩⟩, ⟨?_, distinct⟩, entered⟩
            rintro ⟨h, member, same⟩
            exact (rest h member).2.1 same.symm
          · rintro ⟨⟨free, rest⟩, ⟨once, distinct⟩, entered⟩
            refine ⟨free, fun h member => ⟨(rest h member).1, ?_, (rest h member).2⟩, distinct, entered⟩
            exact fun same => once ⟨h, member, same.symm⟩

theorem flat_passes : nested? groups = none ↔
    ∀ id g, groups.get? id = some g → ∀ m ∈ g.members, groups.get? m.zone = none := by
  simp only [nested?, List.findSome?_eq_none_iff, Option.map_eq_none_iff, List.find?_eq_none, Table.values, List.mem_map,
    Prod.exists, exists_eq_right, forall_exists_index, ← Table.get_iff_entry, Table.contains, Bool.not_eq_true,
    Option.isSome_eq_false_iff, Option.isNone_iff_eq_none]
  exact forall_comm

-- The definitions by id.
def tableOf (definitions : List Group) : Table String Group := Table.ofList (definitions.map entry)

theorem entry_ids (definitions : List Group) : (definitions.map entry).map (·.1) = definitions.map (·.id) := by
  rw [List.map_map]
  rfl

theorem get_table_of (distinct : (definitions.map (·.id)).Nodup) {id : String} {g : Group} :
    (tableOf definitions).get? id = some g ↔ g ∈ definitions ∧ g.id = id := by
  rw [tableOf, Table.get_of_list (by rwa [entry_ids]), List.mem_map]
  constructor
  · rintro ⟨g, member, same⟩
    cases same
    exact ⟨member, rfl⟩
  · rintro ⟨member, rfl⟩
    exact ⟨g, member, rfl⟩

theorem table_flat (distinct : (definitions.map (·.id)).Nodup) : nested? (tableOf definitions) = none ↔
    ∀ g ∈ definitions, ∀ m ∈ g.members, ∀ other ∈ definitions, m.zone ≠ other.id := by
  rw [flat_passes]
  simp only [Option.eq_none_iff_forall_ne_some, ne_eq, get_table_of distinct]
  constructor
  · intro flat g listed m member other defined same
    exact flat g.id g ⟨listed, rfl⟩ m member other ⟨defined, same.symm⟩
  · rintro flat _ g ⟨listed, rfl⟩ m member other ⟨defined, same⟩
    exact flat g listed m member other defined same.symm

theorem collected_table : collect .empty definitions = .ok groups ↔
    (∀ g ∈ definitions, g.Proper) ∧ (definitions.map (·.id)).Nodup ∧ tableOf definitions = groups := by
  have vacant : ∀ id, (Table.empty : Table String Group).contains id = false := fun id => rfl
  simp only [collect_passes, group_passes, vacant, and_true]
  exact Iff.rfl

theorem of_groups_passes : ofGroups definitions = .ok c ↔
    collect .empty definitions = .ok c.groups ∧ nested? c.groups = none := by
  unfold ofGroups
  cases collect .empty definitions with
  | error fault => exact iff_of_false nofun nofun
  | ok groups =>
      simp only [Except.ok.injEq]
      cases nested : nested? groups with
      | some fault =>
          refine iff_of_false nofun ?_
          rintro ⟨rfl, none⟩
          cases nested.symm.trans none
      | none =>
          constructor
          · intro made
            cases made
            exact ⟨rfl, nested⟩
          · rintro ⟨rfl, _⟩
            rfl

theorem define_passes : define definitions = .ok c ↔ Definable definitions ∧ tableOf definitions = c.groups := by
  have made : define definitions = .ok c ↔ ofGroups definitions = .ok c := by
    unfold define
    cases ofGroups definitions <;> simp [Except.mapError]
  rw [made, of_groups_passes, collected_table]
  constructor
  · rintro ⟨⟨proper, distinct, table⟩, none⟩
    rw [← table] at none
    exact ⟨⟨proper, distinct, (table_flat distinct).mp none⟩, table⟩
  · rintro ⟨⟨proper, distinct, flat⟩, table⟩
    rw [← table]
    exact ⟨⟨proper, distinct, rfl⟩, (table_flat distinct).mpr flat⟩

theorem definable_permuted (order : definitions.Perm others) : Definable definitions ↔ Definable others := by
  have kept : ∀ {first second : List Group}, first.Perm second → Definable first → Definable second := by
    intro first second order definable
    refine ⟨fun g member => definable.proper g (order.mem_iff.mpr member),
      (order.map _).nodup_iff.mp definable.distinct, fun g listed m member other defined => ?_⟩
    exact definable.flat g (order.mem_iff.mpr listed) m member other (order.mem_iff.mpr defined)
  exact ⟨kept order, kept order.symm⟩

theorem table_permuted (order : definitions.Perm others) (distinct : (definitions.map (·.id)).Nodup) :
    tableOf definitions = tableOf others := by
  have distinct' : (others.map (·.id)).Nodup := (order.map _).nodup_iff.mp distinct
  refine Table.ext_get fun id => Option.ext fun g => ?_
  rw [get_table_of distinct, get_table_of distinct', order.mem_iff]

theorem table_values (distinct : (definitions.map (·.id)).Nodup) : (tableOf definitions).values.Perm definitions := by
  have named : (tableOf definitions).values.map (·.id) = (tableOf definitions).keys := by
    rw [Table.values, Table.keys, List.map_map]
    apply List.map_congr_left
    rintro ⟨id, g⟩ member
    exact ((get_table_of distinct).mp (Table.get_of_entry member)).2
  have once : (tableOf definitions).values.Nodup := .of_map _ (named ▸ Table.keys_nodup _)
  refine (List.perm_ext_iff_of_nodup once (.of_map _ distinct)).mpr fun g => ?_
  simp only [Table.values, List.mem_map, Prod.exists, exists_eq_right, ← Table.get_iff_entry, get_table_of distinct]
  simp

end

/-- Definitions make a catalog just if each is in order by itself, with members of different names and weights that are
no negative numbers, no two have one id, and none is made of another. The catalog then holds these definitions as they
are, each under its id, and it is the same catalog for any order of them. -/
theorem catalogs_definable (definitions : List Group) :
    ((∃ c, define definitions = .ok c) ↔ Definable definitions) ∧
    (∀ c, define definitions = .ok c →
      (∀ id g, c.get? id = some g ↔ g ∈ definitions ∧ g.id = id) ∧ c.groups.values.Perm definitions) ∧
    ∀ others, definitions.Perm others → ∀ c, define definitions = .ok c ↔ define others = .ok c := by
  refine ⟨?_, ?_, ?_⟩
  · simp only [define_passes]
    exact ⟨fun ⟨_, definable, _⟩ => definable, fun definable => ⟨⟨tableOf definitions⟩, definable, rfl⟩⟩
  · intro c defined
    obtain ⟨definable, table⟩ := define_passes.mp defined
    refine ⟨fun id g => ?_, table ▸ table_values definable.distinct⟩
    rw [get?, ← table]
    exact get_table_of definable.distinct
  · intro others order c
    rw [define_passes, define_passes, ← definable_permuted order]
    exact and_congr_right fun definable => by rw [table_permuted order definable.distinct]

end Catalog

namespace Sample

def north : Group := ⟨"NORCAL", [⟨"NP15", 0.5⟩, ⟨"PGE", 0⟩]⟩

theorem north_and_metro : ∃ c, Catalog.define [north, group] = .ok c ∧ Catalog.define [group, north] = .ok c ∧
    c.get? "NORCAL" = some north := by
  have accepted : (Catalog.define [north, group]).isOk = true := by decide +kernel
  obtain ⟨_, holds, permuted⟩ := Catalog.catalogs_definable [north, group]
  cases defined : Catalog.define [north, group] with
  | error failure => simp [defined, Except.isOk, Except.toBool] at accepted
  | ok c =>
      have swapped : [north, group].Perm [group, north] := .swap _ _ _
      refine ⟨c, rfl, (permuted _ swapped c).mp defined, ?_⟩
      exact ((holds c defined).1 "NORCAL" north).mpr ⟨List.mem_cons_self, rfl⟩

end Sample

end GridLoad
