import GridLoad.Cache.Basic
import GridLoad.Proofs.Group.Unweighted

/-!
A cache whose forecasts carry no weights goes the same way as one whose forecasts carry them: no step looks at what a
forecast says.
-/

set_option autoImplicit false

namespace GridLoad

open GridLoad.Time (Instant)

def Content.unweighted : Content → Content
  | .empty => .empty
  | .ready p expires => .ready p.unweighted expires

def Slot.unweighted (s : Slot) : Slot := { s with content := s.content.unweighted }

def Cache.unweighted (c : Cache) : Cache := { c with slots := c.slots.map Slot.unweighted }

def Entry.unweighted : Entry → Entry
  | .waits => .waits
  | .found p => .found p.unweighted
  | .granted => .granted

def Cached.unweighted (c : Cached) : Cached := { c with prediction := c.prediction.unweighted }

section

variable {c : Cache} {now : Instant} {caller : Caller} {id : SlotId}

theorem unweighted_value (content : Content) :
    content.unweighted.value? now = (content.value? now).map Prediction.unweighted := by
  cases content with
  | empty => rfl
  | ready p expires =>
      simp only [Content.unweighted, Content.value?]
      by_cases early : now < expires
      · rw [if_pos early, if_pos early, Option.map_some]
      · rw [if_neg early, if_neg early, Option.map_none]

theorem unweighted_idle (s : Slot) : s.unweighted.isIdle now = s.isIdle now := by
  simp only [Slot.isIdle, Slot.unweighted, unweighted_value, Option.isNone_map]
  rfl

theorem unweighted_release (s : Slot) : s.unweighted.release = s.release.unweighted := by
  unfold Slot.release
  cases waiting : s.waiting with
  | nil => simp only [Slot.unweighted, waiting]
  | cons next rest => simp only [Slot.unweighted, waiting]

theorem unweighted_slot (c : Cache) (id : SlotId) : c.unweighted.slots[id]? = c.slots[id]?.map Slot.unweighted :=
  List.getElem?_map

theorem unweighted_change {f f' : Slot → Slot} (alike : ∀ s, f' s.unweighted = (f s).unweighted) :
    c.unweighted.change id f' = (c.change id f).unweighted := by
  have slots : (c.slots.map Slot.unweighted).modify id f' = (c.slots.modify id f).map Slot.unweighted := by
    apply List.ext_getElem?
    intro place
    simp only [List.getElem?_modify, List.getElem?_map]
    cases c.slots[place]? with
    | none => rfl
    | some s =>
        by_cases here : id = place
        · simp only [here, if_true, Option.map_some]
          exact congrArg some (alike s)
        · simp only [here, if_false, Option.map_some]
          rfl
  simp only [Cache.change, Cache.unweighted, slots]

theorem unweighted_purge : c.unweighted.purge now = (c.purge now).unweighted := by
  have idle : ∀ id : SlotId, c.unweighted.slots[id]?.all (Slot.isIdle now) = c.slots[id]?.all (Slot.isIdle now) := by
    intro id
    rw [unweighted_slot, Option.all_map]
    exact congrArg (Option.all · _) (funext unweighted_idle)
  simp only [Cache.purge, idle]
  rfl

theorem unweighted_slot_for (key : Key) :
    c.unweighted.slotFor now key = ((c.slotFor now key).1.unweighted, (c.slotFor now key).2) := by
  have index : c.unweighted.index = c.index := rfl
  unfold Cache.slotFor
  rw [index]
  cases c.index.get? key with
  | some id => rfl
  | none =>
      have room : (if c.unweighted.limits.capacity ≤ c.unweighted.size then c.unweighted.purge now else c.unweighted) =
          (if c.limits.capacity ≤ c.size then c.purge now else c).unweighted := by
        rw [unweighted_purge, apply_ite Cache.unweighted]
        rfl
      simp only [room]
      generalize (if c.limits.capacity ≤ c.size then c.purge now else c) = roomy
      simp only [Cache.unweighted, List.map_append, List.length_map]
      rfl

theorem unweighted_look (s : Slot) : c.unweighted.look now caller id s.unweighted =
    ((c.look now caller id s).1.unweighted, (c.look now caller id s).2.unweighted) := by
  have value : s.unweighted.content.value? now = (s.content.value? now).map Prediction.unweighted :=
    unweighted_value s.content
  unfold Cache.look
  rw [value]
  cases s.content.value? now with
  | some p =>
      simp only [Option.map_some, unweighted_change unweighted_release]
      rfl
  | none =>
      have granted : c.unweighted.change id (fun s => { s with content := .empty, lock := .held caller }) =
          (c.change id fun s => { s with content := .empty, lock := .held caller }).unweighted :=
        unweighted_change fun _ => rfl
      simp only [Option.map_none, granted]
      rfl

theorem unweighted_enter : c.unweighted.enter now caller id =
    ((c.enter now caller id).1.unweighted, (c.enter now caller id).2.unweighted) := by
  unfold Cache.enter
  rw [unweighted_slot]
  cases c.slots[id]? with
  | none => rfl
  | some s =>
      simp only [Option.map_some]
      change (if s.lock = .free ∨ s.lock = .handed caller then _ else if s.waiting.contains caller then _ else _) = _
      by_cases open_ : s.lock = .free ∨ s.lock = .handed caller
      · rw [if_pos open_, if_pos open_, unweighted_look]
      · rw [if_neg open_, if_neg open_]
        by_cases lined : s.waiting.contains caller
        · rw [if_pos lined, if_pos lined]
          rfl
        · have joined : c.unweighted.change id (fun s => { s with waiting := s.waiting ++ [caller] }) =
              (c.change id fun s => { s with waiting := s.waiting ++ [caller] }).unweighted :=
            unweighted_change fun _ => rfl
          rw [if_neg lined, if_neg lined]
          simp only [joined]
          rfl

theorem unweighted_leave (computed : Option Prediction) :
    c.unweighted.leave now id (computed.map Prediction.unweighted) = (c.leave now id computed).unweighted := by
  have released : c.unweighted.change id Slot.release = (c.change id Slot.release).unweighted :=
    unweighted_change unweighted_release
  cases computed with
  | none => exact released
  | some p =>
      simp only [Cache.leave, Option.map_some, unweighted_slot]
      cases c.slots[id]? with
      | none => exact released
      | some s =>
          have stored : c.unweighted.change id (fun s =>
                { s with content := .ready p.unweighted (now + c.unweighted.limits.lifetime.nanos) }.release) =
              (c.change id fun s => { s with content := .ready p (now + c.limits.lifetime.nanos) }.release).unweighted :=
            unweighted_change fun s => unweighted_release { s with content := .ready p _ }
          simp only [Option.map_some, stored]
          rfl

theorem unweighted_withdraw : c.unweighted.withdraw caller id = (c.withdraw caller id).unweighted := by
  apply unweighted_change
  intro s
  change (if s.lock = .handed caller then _ else _) = _
  by_cases handed : s.lock = .handed caller
  · rw [if_pos handed, if_pos handed, unweighted_release]
  · rw [if_neg handed, if_neg handed]
    rfl

end

end GridLoad
