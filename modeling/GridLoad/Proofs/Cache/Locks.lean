import GridLoad.Proofs.Cache.Contents

/-!
The order that the locks of slots keep. Who computes at a slot and who wants to enter it is told from outside:
callers may be plain calls, or requests that do other things in between.
-/

set_option autoImplicit false

namespace GridLoad

open GridLoad.Time (Instant)

-- A lock is held by one who computes, and is handed on along a line of those who want to enter.
structure Slot.Orderly (holds waits : Caller → Prop) (s : Slot) : Prop where
  idle : s.lock = .free → s.waiting = []
  held : ∀ c, s.lock = .held c → holds c ∧ s.content = .empty
  handed : ∀ c, s.lock = .handed c → waits c ∧ c ∉ s.waiting
  lined : ∀ c ∈ s.waiting, waits c
  once : s.waiting.Nodup

structure Cache.Orderly (holds waits : Caller → SlotId → Prop) (c : Cache) : Prop where
  slots : ∀ (id : SlotId) (s : Slot), c.slots[id]? = some s → s.Orderly (holds · id) (waits · id)
  holders : ∀ caller id, holds caller id → ∃ s, c.slots[id]? = some s ∧ s.lock = .held caller

namespace Slot

variable {holds waits holds' waits' : Caller → Prop} {s : Slot} {caller : Caller}

theorem orderly_fresh (key : Key) : Orderly holds waits { key := key } := by
  constructor <;> simp

theorem orderly_kept (orderly : s.Orderly holds waits) (held : ∀ c, s.lock = .held c → holds c → holds' c)
    (waiting : ∀ c, s.lock = .handed c ∨ c ∈ s.waiting → waits c → waits' c) : s.Orderly holds' waits' where
  idle := orderly.idle
  held c lock := ⟨held c lock (orderly.held c lock).1, (orderly.held c lock).2⟩
  handed c lock := ⟨waiting c (.inl lock) (orderly.handed c lock).1, (orderly.handed c lock).2⟩
  lined c member := waiting c (.inr member) (orderly.lined c member)
  once := orderly.once

-- The first of the line gets the lock, and is in it no longer.
theorem release_orderly (lined : ∀ c ∈ s.waiting, waits c) (once : s.waiting.Nodup) :
    s.release.Orderly holds waits := by
  unfold release
  cases line : s.waiting with
  | nil => constructor <;> simp
  | cons next rest =>
      rw [line] at lined once
      obtain ⟨apart, still⟩ := List.nodup_cons.mp once
      constructor
      · intro free
        cases free
      · intro c held
        cases held
      · intro c handed
        cases handed
        exact ⟨lined next List.mem_cons_self, apart⟩
      · intro c member
        exact lined c (List.mem_cons_of_mem next member)
      · exact still

theorem release_not_held (s : Slot) (c : Caller) : s.release.lock ≠ .held c := by
  unfold release
  split <;> simp

theorem admitted_not_held (turn : s.Admits caller) (c : Caller) : s.lock ≠ .held c := by
  rcases turn with free | handed
  · simp [free]
  · simp [handed]

theorem admitted_not_lined (orderly : s.Orderly holds waits) (turn : s.Admits caller) : caller ∉ s.waiting := by
  rcases turn with free | handed
  · simp [orderly.idle free]
  · exact (orderly.handed caller handed).2

end Slot

namespace Cache

variable {holds waits holds' waits' : Caller → SlotId → Prop} {c c' : Cache} {now : Instant} {caller : Caller}
  {id : SlotId} {s : Slot}

theorem orderly_kept (orderly : c.Orderly holds waits) (slots : c'.slots = c.slots)
    (held : ∀ o at', holds' o at' ↔ holds o at') (waiting : ∀ o at', waits o at' → waits' o at') :
    c'.Orderly holds' waits' := by
  constructor
  · intro id s there
    rw [slots] at there
    exact Slot.orderly_kept (orderly.slots id s there) (fun o _ => (held o id).mpr) fun o _ => waiting o id
  · intro o id computing
    rw [slots]
    exact orderly.holders o id ((held o id).mp computing)

theorem allot_orderly (key : Key) (orderly : c.Orderly holds waits) : (c.allot key).Orderly holds waits := by
  constructor
  · intro id s there
    dsimp only [allot] at there
    by_cases old : id < c.slots.length
    · rw [List.getElem?_append_left old] at there
      exact orderly.slots id s there
    · rw [List.getElem?_append_right (Nat.le_of_not_lt old)] at there
      cases List.mem_singleton.mp (List.mem_of_getElem? there)
      exact Slot.orderly_fresh key
  · intro o id computing
    obtain ⟨s, there, lock⟩ := orderly.holders o id computing
    exact ⟨s, by rw [allot, List.getElem?_append_left (List.getElem?_eq_some_iff.mp there).1, there], lock⟩

theorem slot_for_orderly (key : Key) (orderly : c.Orderly holds waits) :
    (c.slotFor now key).1.Orderly holds waits := by
  rcases slot_for_cases c now key with ⟨_, _, same⟩ | ⟨_, _, same⟩ | ⟨_, _, same⟩ <;> rw [same]
  · exact orderly
  · exact allot_orderly key orderly
  · exact allot_orderly (c := c.purge now) key ⟨orderly.slots, orderly.holders⟩

section

-- One caller moves at one slot: the others compute and wait as before, and so does the order elsewhere.
variable (orderly : c.Orderly holds waits)
  (others : ∀ o, o ≠ caller → ∀ at', (holds' o at' ↔ holds o at') ∧ (waits o at' → waits' o at'))
  (only : ∀ at', waits caller at' → at' = id)
  (elsewhere : ∀ at', at' ≠ id → (holds' caller at' ↔ holds caller at'))

include orderly

theorem held_by (there : c.slots[id]? = some s) {o : Caller} (computing : holds o id) : s.lock = .held o := by
  obtain ⟨same, before, lock⟩ := orderly.holders o id computing
  cases Option.some.inj (there.symm.trans before)
  exact lock

include others only elsewhere

theorem move_orderly (f : Slot → Slot) (changed : c'.slots = c.slots.modify id f)
    (here : ∀ s, c.slots[id]? = some s → (f s).Orderly (holds' · id) (waits' · id))
    (held : ∀ o, holds' o id → ∃ s, c.slots[id]? = some s ∧ (f s).lock = .held o) : c'.Orderly holds' waits' := by
  have computes : ∀ o at', at' ≠ id → (holds' o at' ↔ holds o at') := by
    intro o at' different
    by_cases self : o = caller
    · subst self
      exact elsewhere at' different
    · exact (others o self at').1
  constructor
  · intro other s there
    rw [changed, List.getElem?_modify] at there
    by_cases same : id = other
    · subst same
      obtain ⟨old, before, rfl⟩ : ∃ old, c.slots[id]? = some old ∧ f old = s := by simpa using there
      exact here old before
    · have kept : c.slots[other]? = some s := by simpa [same] using there
      have slot := orderly.slots other s kept
      refine Slot.orderly_kept slot (fun o _ => (computes o other (Ne.symm same)).mpr) fun o lined waiting => ?_
      refine (others o ?_ other).2 waiting
      intro self
      subst self
      exact same (only other waiting).symm
  · intro o other computing
    by_cases same : other = id
    · subst same
      obtain ⟨s, there, lock⟩ := held o computing
      exact ⟨f s, by simp [changed, there], lock⟩
    · obtain ⟨s, there, lock⟩ := orderly.holders o other ((computes o other same).mp computing)
      exact ⟨s, by simp [changed, there, Ne.symm same], lock⟩

theorem found_orderly {p : Prediction} (met : (c.enter now caller id).2 = .found p)
    (same : holds' caller id ↔ holds caller id) : (c.enter now caller id).1.Orderly holds' waits' := by
  obtain ⟨s, there, turn, -, after⟩ := found_at met
  have slot := orderly.slots id s there
  rw [after]
  refine move_orderly orderly others only elsewhere Slot.release rfl ?_ ?_
  · intro old before
    cases Option.some.inj (there.symm.trans before)
    refine Slot.release_orderly (fun o member => ?_) slot.once
    refine (others o ?_ id).2 (slot.lined o member)
    intro self
    exact Slot.admitted_not_lined slot turn (self ▸ member)
  · intro o computing
    refine absurd (held_by orderly there ?_) (Slot.admitted_not_held turn o)
    by_cases self : o = caller
    · subst self
      exact same.mp computing
    · exact (others o self id).1.mp computing

theorem granted_orderly (met : (c.enter now caller id).2 = .granted) (took : holds' caller id) :
    (c.enter now caller id).1.Orderly holds' waits' := by
  obtain ⟨s, there, turn, -, after⟩ := granted_at met
  have slot := orderly.slots id s there
  rw [after]
  refine move_orderly orderly others only elsewhere
    (fun s => { s with content := .empty, lock := .held caller }) rfl ?_ ?_
  · intro old before
    cases Option.some.inj (there.symm.trans before)
    constructor
    · intro free
      cases free
    · intro o lock
      cases lock
      exact ⟨took, rfl⟩
    · intro o lock
      cases lock
    · intro o member
      refine (others o ?_ id).2 (slot.lined o member)
      intro self
      exact Slot.admitted_not_lined slot turn (self ▸ member)
    · exact slot.once
  · intro o computing
    by_cases self : o = caller
    · subst self
      exact ⟨s, there, rfl⟩
    · exact absurd (held_by orderly there ((others o self id).1.mp computing)) (Slot.admitted_not_held turn o)

theorem withdraw_orderly (same : holds' caller id ↔ holds caller id) :
    (c.withdraw caller id).Orderly holds' waits' := by
  refine move_orderly orderly others only elsewhere _ rfl ?_ ?_
  · intro s there
    have slot := orderly.slots id s there
    have waiting : ∀ o ∈ s.waiting, o ≠ caller → waits' o id := fun o member other =>
      (others o other id).2 (slot.lined o member)
    by_cases handed : s.lock = .handed caller
    · simp only [handed, if_true]
      refine Slot.release_orderly (fun o member => waiting o member ?_) slot.once
      intro self
      exact (slot.handed caller handed).2 (self ▸ member)
    · simp only [handed, if_false]
      constructor
      · intro free
        simp [slot.idle free]
      · intro o lock
        have computing := (slot.held o lock).1
        refine ⟨?_, (slot.held o lock).2⟩
        by_cases self : o = caller
        · subst self
          exact same.mpr computing
        · exact (others o self id).1.mpr computing
      · intro o lock
        have other : o ≠ caller := fun self => handed (self ▸ lock)
        refine ⟨(others o other id).2 (slot.handed o lock).1, fun member => ?_⟩
        exact (slot.handed o lock).2 (List.mem_filter.mp member).1
      · intro o member
        obtain ⟨lined, other⟩ := List.mem_filter.mp member
        exact waiting o lined (by simpa using other)
      · exact slot.once.filter _
  · intro o computing
    have before : holds o id := by
      by_cases self : o = caller
      · subst self
        exact same.mp computing
      · exact (others o self id).1.mp computing
    obtain ⟨s, there, lock⟩ := orderly.holders o id before
    exact ⟨s, there, by simp [lock]⟩

theorem leave_orderly {computed : Option Prediction} (busy : ∀ at', ¬ waits caller at') (held : holds caller id)
    (left : ¬ holds' caller id) : (c.leave now id computed).Orderly holds' waits' := by
  have free : ∀ o, ¬ holds' o id := by
    intro o computing
    by_cases self : o = caller
    · subst self
      exact left computing
    · obtain ⟨s, there, lock⟩ := orderly.holders caller id held
      have both := held_by orderly there ((others o self id).1.mp computing)
      rw [lock] at both
      exact self (Lock.held.inj both).symm
  have passed : ∀ s, c.slots[id]? = some s → ∀ t : Slot, t.waiting = s.waiting →
      t.release.Orderly (holds' · id) (waits' · id) := by
    intro s there t line
    have slot := orderly.slots id s there
    refine Slot.release_orderly (fun o member => ?_) (line ▸ slot.once)
    have waiting := slot.lined o (line ▸ member)
    refine (others o ?_ id).2 waiting
    intro self
    exact busy id (self ▸ waiting)
  unfold leave
  split
  · exact move_orderly orderly others only elsewhere _ rfl
      (fun s there => passed s there { s with content := _ } rfl) fun o computing => absurd computing (free o)
  · exact move_orderly orderly others only elsewhere Slot.release rfl
      (fun s there => passed s there s rfl) fun o computing => absurd computing (free o)

end

-- Nobody else is in a line that the one who enters joins.
theorem waits_orderly (orderly : c.Orderly holds waits) (only : ∀ at', waits caller at' → at' = id)
    (wants : waits caller id) (met : (c.enter now caller id).2 = .waits) :
    (c.enter now caller id).1.Orderly holds waits := by
  rcases waits_at met with same | ⟨s, there, out, apart, after⟩
  · rw [same]
    exact orderly
  · have slot := orderly.slots id s there
    rw [after]
    refine move_orderly orderly (fun _ _ _ => ⟨.rfl, fun w => w⟩) only (fun _ _ => .rfl)
      (fun s => { s with waiting := s.waiting ++ [caller] }) rfl ?_ ?_
    · intro old before
      cases Option.some.inj (there.symm.trans before)
      constructor
      · intro free
        exact absurd (.inl free) out
      · exact slot.held
      · intro o handed
        have other : o ≠ caller := fun self => out (.inr (self ▸ handed))
        exact ⟨(slot.handed o handed).1, by simpa [other] using (slot.handed o handed).2⟩
      · intro o member
        rcases List.mem_append.mp member with before | last
        · exact slot.lined o before
        · cases List.mem_singleton.mp last
          exact wants
      · refine List.nodup_append.mpr ⟨slot.once, by simp, ?_⟩
        intro a member b last same
        cases List.mem_singleton.mp last
        exact apart (same ▸ member)
    · intro o computing
      exact orderly.holders o id computing

-- A caller that is gone was in any line, or computed at any number of slots.
theorem abandon_orderly (orderly : c.Orderly holds waits)
    (others : ∀ o, o ≠ caller → ∀ at', (holds' o at' ↔ holds o at') ∧ (waits o at' → waits' o at'))
    (gone : ∀ at', ¬ holds' caller at') : (c.abandon caller).Orderly holds' waits' := by
  constructor
  · intro id s there
    obtain ⟨old, before, rfl⟩ : ∃ old, c.slots[id]? = some old ∧ old.abandon caller = s := by
      simpa [abandon] using there
    have slot := orderly.slots id old before
    have lined : ∀ o ∈ old.waiting.filter (· ≠ caller), waits' o id := by
      intro o member
      obtain ⟨waiting, other⟩ := List.mem_filter.mp member
      exact (others o (by simpa using other) id).2 (slot.lined o waiting)
    unfold Slot.abandon
    dsimp only
    by_cases mine : old.lock = .held caller ∨ old.lock = .handed caller
    · rw [if_pos mine]
      exact Slot.release_orderly lined (slot.once.filter _)
    · rw [if_neg mine]
      constructor
      · intro free
        simp [slot.idle free]
      · intro o lock
        have other : o ≠ caller := fun self => mine (.inl (self ▸ lock))
        exact ⟨(others o other id).1.mpr (slot.held o lock).1, (slot.held o lock).2⟩
      · intro o lock
        have other : o ≠ caller := fun self => mine (.inr (self ▸ lock))
        refine ⟨(others o other id).2 (slot.handed o lock).1, fun member => ?_⟩
        exact (slot.handed o lock).2 (List.mem_filter.mp member).1
      · exact lined
      · exact slot.once.filter _
  · intro o id computing
    have other : o ≠ caller := fun self => gone id (self ▸ computing)
    obtain ⟨s, there, lock⟩ := orderly.holders o id ((others o other id).1.mp computing)
    refine ⟨s.abandon caller, by simp [abandon, there], ?_⟩
    simp [Slot.abandon, lock, other]

end Cache

end GridLoad
