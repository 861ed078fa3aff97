import GridLoad.Serving.Health
import GridLoad.Serving.Snapshots
import GridLoad.Zone.Registry

/-!
What findings say: of a registry, of the source of snapshots, and together of the service as a whole.
-/

set_option autoImplicit false

namespace GridLoad

def Condition.rank : Condition → Nat
  | .healthy => 0
  | .degraded => 1
  | .unhealthy => 2

def Finding.undated (f : Finding) : Finding := { f with checkedAt := 0 }

-- Findings looked through one after the other, up to the first of something that has failed.
def scan : Bool → List Finding → Condition
  | restricted, [] => if restricted then .degraded else .healthy
  | restricted, f :: rest =>
      match f.condition with
      | .unhealthy => .unhealthy
      | .degraded => scan true rest
      | .healthy => scan restricted rest

section

variable {fs : List Finding} {findings : Table String Finding}

theorem scan_decides (restricted : Bool) (fs : List Finding) : scan restricted fs =
    if Condition.unhealthy ∈ fs.map (·.condition) then .unhealthy
    else if restricted = true ∨ Condition.degraded ∈ fs.map (·.condition) then .degraded
    else .healthy := by
  induction fs generalizing restricted with
  | nil => simp [scan]
  | cons f rest ih =>
      rw [scan]
      cases found : f.condition with
      | unhealthy => simp [found]
      | degraded => simp [ih, found]
      | healthy => simp [ih, found]

theorem worst_decides (findings : Table String Finding) : worst findings =
    if Condition.unhealthy ∈ findings.values.map (·.condition) then .unhealthy
    else if Condition.degraded ∈ findings.values.map (·.condition) then .degraded
    else .healthy := by
  simp only [worst, List.contains_iff_mem]

-- In whatever order findings are looked through, the whole is as bad as the worst of them.
theorem scan_worst (same : fs.Perm findings.values) : scan false fs = worst findings := by
  have conditions := fun c => (same.map (·.condition)).mem_iff (a := c)
  rw [scan_decides, worst_decides]
  simp only [conditions, Bool.false_eq_true, false_or]

theorem worst_bounds {f : Finding} (member : f ∈ findings.values) : f.condition.rank ≤ (worst findings).rank := by
  have listed : f.condition ∈ findings.values.map (·.condition) := List.mem_map_of_mem member
  cases found : f.condition with
  | healthy => exact Nat.zero_le _
  | unhealthy =>
      rw [found] at listed
      have failed : worst findings = .unhealthy := (worst_decides findings).trans (if_pos listed)
      exact Nat.le_of_eq (congrArg Condition.rank failed.symm)
  | degraded =>
      rw [found] at listed
      rw [worst_decides, if_pos listed]
      split <;> decide

theorem worst_found (some : findings.values ≠ []) : ∃ f ∈ findings.values, f.condition = worst findings := by
  rw [worst_decides]
  split
  · rename_i failed
    exact List.mem_map.mp failed
  · rename_i whole
    split
    · rename_i restricted
      exact List.mem_map.mp restricted
    · rename_i free
      obtain ⟨f, member⟩ := List.exists_mem_of_ne_nil _ some
      refine ⟨f, member, ?_⟩
      cases found : f.condition with
      | healthy => rfl
      | degraded => exact absurd (List.mem_map.mpr ⟨f, member, found⟩) free
      | unhealthy => exact absurd (List.mem_map.mpr ⟨f, member, found⟩) whole

theorem ready_operational {h : Health} (ready : h.ready = true) :
    h.readiness.ready = true ↔ h.report.condition ≠ .unhealthy := by
  unfold Health.readiness
  cases h.report.condition <;> simp [ready, Condition.isOperational]

end

-- What is found of a registry that is served.
def Registry.finding (r : Registry) : Finding := registryFinding r.generation r.availableZones.length r.unavailableZones

theorem registry_condition (r : Registry) : r.finding.condition =
    if r.availableZones = [] then .unhealthy else if r.unavailableZones = [] then .healthy else .degraded := by
  unfold Registry.finding registryFinding
  simp only [List.length_eq_zero_iff, List.isEmpty_iff]
  split
  · rfl
  · split <;> rfl

theorem registry_message (r : Registry) (ill : r.finding.condition ≠ .healthy) :
    ∃ rest, r.finding.message = some ("generation " ++ toString r.generation ++ ": " ++ rest) := by
  have none : ": no zone model available" = ": " ++ "no zone model available" := by decide
  have some : ": unavailable zones " = ": " ++ "unavailable zones " := by decide
  revert ill
  unfold Registry.finding registryFinding
  dsimp only
  rw [none, some]
  split
  · exact fun _ => ⟨"no zone model available", congrArg Option.some String.append_assoc.symm⟩
  · split
    · exact fun ill => absurd rfl ill
    · refine fun _ => ⟨"unavailable zones " ++ ", ".intercalate r.unavailableZones, ?_⟩
      simp only [Finding.degraded, String.append_assoc]

-- How the source fares by a look at the current snapshot: a fresh one, one from before, or none. A look that was
-- given up says nothing.
def sourceCondition? : Outcome ServedSnapshot → Option Condition
  | .ok served => some (if served.sourceError.isNone then .healthy else .degraded)
  | .error (.failed _) => some .unhealthy
  | .error _ => none

theorem source_finding_condition (out : Outcome ServedSnapshot) :
    (sourceFinding out).map (·.condition) = sourceCondition? out := by
  match out with
  | .ok ⟨named, none⟩ => rfl
  | .ok ⟨named, some error⟩ => rfl
  | .error (.failed f) => rfl
  | .error .pastCalendar => rfl
  | .error .outOfTime => rfl

end GridLoad
