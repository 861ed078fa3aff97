import GridLoad.Proofs.Serving.Operated
import GridLoad.Proofs.Serving.Operations

/-!
Every request keeps to what is asked of it, whatever it is answered within what is vouched for.
-/

set_option autoImplicit false

namespace GridLoad

open Program

section

variable {Γ : Ledger} {v : Service}

theorem meets_announce {c : Conduct Question.Answer} (r : Registry)
    (gauged : ∀ t, c.guarantee t (.act (.gauge r))) (noted : ∀ t event, c.guarantee t (.act (.note event)))
    (found : ∀ t component finding, c.guarantee t (.act (.find component finding))) (t : Transcript) :
    Meets c (fun _ _ => True) (Service.announce r) t := by
  refine meets_first (gauged t) fun _ _ => ?_
  refine meets_bind (meets_each (fun event w => ?_) _) fun w _ _ => ?_
  · exact meets_question (noted w event) fun _ _ => trivial
  · exact meets_question (found w _ _) fun _ _ => trivial

-- What is published bears the number that was asked for before.
theorem meets_replace_registry (previous : Registry) (root : Path) {t : Transcript}
    (first : ∀ r : Registry, ⟨.act (.publish r), ()⟩ ∉ t) :
    Meets (Γ.conduct v.setup) (fun _ _ => True) (Service.replaceRegistry previous root) t := by
  refine meets_act trivial fun generation _ => ?_
  refine meets_wait fun read numbered => ?_
  match read, numbered with
  | none, _ => trivial
  | some (.error reason), _ => exact meets_act trivial fun _ _ => meets_act trivial fun _ _ => trivial
  | some (.ok loaded), numbered =>
      have numbered : loaded.generation = generation := numbered
      refine meets_act ⟨?_, ?_⟩ fun _ _ => ?_
      · rw [numbered]
        simp
      · intro r
        simp [first r]
      · refine meets_act trivial fun r _ => meets_act trivial fun _ _ => meets_act trivial fun _ _ => ?_
        refine meets_bind (meets_announce r (fun _ => trivial) (fun _ _ => trivial) (fun _ _ _ => trivial) _) fun _ _ _ => ?_
        exact meets_act trivial fun _ _ => meets_act trivial fun _ _ => trivial

theorem meets_reload : Meets (Γ.conduct v.setup) (fun _ _ => True) Service.reload [] := by
  refine meets_wait fun turn _ => ?_
  cases turn with
  | none => trivial
  | some _ =>
      refine meets_act trivial fun previous _ => ?_
      cases previous.root with
      | none => exact meets_act trivial fun _ _ => trivial
      | some root =>
          refine meets_bind (meets_replace_registry previous root fun r => by simp) fun _ _ _ => ?_
          exact meets_act trivial fun _ _ => trivial

theorem meets_operation (flat : v.setup.catalog.Flat) (op : Operation) :
    Meets (Γ.conduct v.setup) (fun _ _ => True) (op.program v) [] := by
  cases op with
  | predict zone horizon options => exact meets_weaken (meets_predict flat horizon) fun _ _ _ => trivial
  | trend zone horizons options => exact meets_weaken (meets_trend flat horizons) fun _ _ _ => trivial
  | status zone => exact meets_weaken (meets_status flat) fun _ _ _ => trivial
  | reload => exact meets_reload

theorem meets_ask (flat : v.setup.catalog.Flat) (ask : Ask) :
    Meets (Γ.conduct v.setup) (fun _ _ => True) (ask.program v) [] := by
  refine ask_meets ask (meets_operation flat) (fun t q _ aside => ?_) (fun _ _ _ _ _ => trivial) trivial
  unfold Question.Aside at aside
  split at aside <;> first | exact trivial | exact absurd aside id

end

end GridLoad
