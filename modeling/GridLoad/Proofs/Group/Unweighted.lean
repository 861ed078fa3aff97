import GridLoad.Proofs.Table
import GridLoad.Serving.Service

/-!
Catalogs and forecasts without the weights that constituents are declared with. What a request reads of a catalog is the
same without them, and a sum of constituents differs by nothing else.
-/

set_option autoImplicit false

namespace GridLoad

open GridLoad.Time (Timestamp)

def Member.unweighted (m : Member) : Member := { m with weight := 0 }

def Group.unweighted (g : Group) : Group := { g with members := g.members.map Member.unweighted }

def Catalog.unweighted (c : Catalog) : Catalog := ⟨c.groups.map fun _ => Group.unweighted⟩

def Setup.unweighted (setup : Setup) : Setup := { setup with catalog := setup.catalog.unweighted }

def MemberShare.unweighted (s : MemberShare) : MemberShare := { s with declaredWeight := 0 }

def Provenance.unweighted : Provenance → Provenance
  | .models weightsVersion generation shares => .models weightsVersion generation shares
  | .members combination shares => .members combination (shares.map MemberShare.unweighted)

def Prediction.unweighted (p : Prediction) : Prediction := { p with source := p.source.unweighted }

section

variable (c : Catalog) (g : Group) (r : Registry) (zone : String)

theorem unweighted_member_ids : g.unweighted.memberIds = g.memberIds := by
  simp only [Group.memberIds, Group.unweighted, List.map_map]
  rfl

theorem unweighted_get : c.unweighted.get? zone = (c.get? zone).map Group.unweighted := Table.get_map _ _ _

theorem unweighted_contains : c.unweighted.contains zone = c.contains zone := by
  change (c.unweighted.get? zone).isSome = (c.get? zone).isSome
  rw [unweighted_get, Option.isSome_map]

theorem unweighted_known : isKnown c.unweighted r zone = isKnown c r zone := by
  rw [isKnown, unweighted_contains, isKnown]

theorem unweighted_involved : involvedZones c.unweighted zone = involvedZones c zone := by
  rw [involvedZones, unweighted_get]
  cases found : c.get? zone with
  | none => simp only [involvedZones, found, Option.map_none]
  | some g => simp only [involvedZones, found, Option.map_some, unweighted_member_ids]

theorem unweighted_group_status : groupStatus r g.unweighted = groupStatus r g := by
  have entries : g.unweighted.members.map (fun m => (m.zone, r.find? m.zone)) =
      g.members.map fun m => (m.zone, r.find? m.zone) := by
    simp only [Group.unweighted, List.map_map]
    rfl
  simp only [groupStatus, entries, unweighted_member_ids]
  rfl

theorem unweighted_describe : describe c.unweighted r zone = describe c r zone := by
  rw [describe, unweighted_get]
  cases found : c.get? zone with
  | none => simp only [describe, found, Option.map_none]
  | some g => simp only [describe, found, Option.map_some, unweighted_group_status]

theorem unweighted_summaries : zoneSummaries c.unweighted r = zoneSummaries c r := by
  have values : c.unweighted.groups.values = c.groups.values.map Group.unweighted := by
    simp only [Table.values, Catalog.unweighted, Table.map, List.map_map]
    rfl
  have available : ∀ g : Group, (g.unweighted.members.all fun m => r.availableZones.contains m.zone) =
      g.members.all fun m => r.availableZones.contains m.zone := by
    intro g
    simp only [Group.unweighted, List.all_map]
    rfl
  simp only [zoneSummaries, unweighted_contains, values, List.map_map, Function.comp_def, available,
    unweighted_member_ids]
  rfl

end

section

variable {p q : Prediction} {parts parts' : List (Prediction × Float)}

theorem same_values (same : p.unweighted = q.unweighted) : p.zone = q.zone ∧ p.horizon = q.horizon ∧
    p.point = q.point ∧ p.lower = q.lower ∧ p.upper = q.upper ∧ p.level = q.level ∧ p.token = q.token ∧
    p.generatedAt = q.generatedAt ∧ p.source.unweighted = q.source.unweighted := by
  simpa only [Prediction.unweighted, Prediction.mk.injEq] using same

-- The versions are those of a forecast's own models, and a sum has none of its own.
theorem same_model_versions (same : p.source.unweighted = q.source.unweighted) : p.modelVersions = q.modelVersions := by
  unfold Prediction.modelVersions
  cases source : p.source with
  | models weightsVersion generation shares =>
      rw [source] at same
      cases source' : q.source with
      | models weightsVersion' generation' shares' =>
          rw [source'] at same
          cases same
          rfl
      | members combination shares' =>
          rw [source'] at same
          cases same
  | members combination shares =>
      rw [source] at same
      cases source' : q.source with
      | models weightsVersion' generation' shares' =>
          rw [source'] at same
          cases same
      | members combination' shares' => rfl

theorem same_member_share (same : p.unweighted = q.unweighted) (weight weight' : Float) :
    (p.memberShare weight).unweighted = (q.memberShare weight').unweighted := by
  obtain ⟨zone, _, point, lower, upper, _, _, _, source⟩ := same_values same
  simp only [Prediction.memberShare, MemberShare.unweighted, zone, point, lower, upper, same_model_versions source]

-- The parts of two sums, whatever the weights beside them.
theorem same_parts_through {γ : Type} {f : Prediction × Float → γ}
    (same : parts.map (·.1.unweighted) = parts'.map (·.1.unweighted))
    (reads : ∀ a b : Prediction × Float, a.1.unweighted = b.1.unweighted → f a = f b) :
    parts.map f = parts'.map f := by
  induction parts generalizing parts' with
  | nil => rw [List.map_eq_nil_iff.mp same.symm]
  | cons a rest ih =>
      obtain ⟨b, rest', rfl, here, others⟩ := List.map_eq_cons_iff.mp same.symm
      rw [List.map_cons, List.map_cons, reads a b here.symm, ih others.symm]

-- Of a sum, the weights of the constituents show in the record of its parts and in nothing else.
theorem aggregate_unweighted (group : String) (horizon : Nat) (token : Token) (combination : Combination) (now : Timestamp)
    (same : parts.map (·.1.unweighted) = parts'.map (·.1.unweighted)) :
    (aggregate group horizon token combination parts now).unweighted =
      (aggregate group horizon token combination parts' now).unweighted := by
  have points : (parts.map fun p => p.1.point) = parts'.map fun p => p.1.point :=
    same_parts_through same fun a b alike => (same_values alike).2.2.1
  have lowers : (parts.map fun p => p.1.lowerHalf) = parts'.map fun p => p.1.lowerHalf := by
    apply same_parts_through same
    intro a b alike
    obtain ⟨_, _, point, lower, _⟩ := same_values alike
    rw [Prediction.lowerHalf, Prediction.lowerHalf, point, lower]
  have uppers : (parts.map fun p => p.1.upperHalf) = parts'.map fun p => p.1.upperHalf := by
    apply same_parts_through same
    intro a b alike
    obtain ⟨_, _, point, _, upper, _⟩ := same_values alike
    rw [Prediction.upperHalf, Prediction.upperHalf, point, upper]
  have levels : (parts.map fun p => p.1.level) = parts'.map fun p => p.1.level :=
    same_parts_through same fun a b alike => (same_values alike).2.2.2.2.2.1
  have shares : (parts.map fun p => (p.1.memberShare p.2).unweighted) =
      parts'.map fun p => (p.1.memberShare p.2).unweighted :=
    same_parts_through same fun a b alike => same_member_share alike a.2 b.2
  simp only [aggregate, Prediction.unweighted, Provenance.unweighted, List.map_map, Function.comp_def, ← List.head?_map,
    points, lowers, uppers, levels, shares]

theorem same_checked (g : Group) (horizon : Nat) (token : Token) (m : Member) (same : p.unweighted = q.unweighted) :
    checkMember g.unweighted horizon token m.unweighted q = checkMember g horizon token m p := by
  obtain ⟨zone, hours, _, _, _, _, named, _⟩ := same_values same
  simp only [checkMember, Group.unweighted, Member.unweighted, zone, hours, named]
  rfl

end

end GridLoad
