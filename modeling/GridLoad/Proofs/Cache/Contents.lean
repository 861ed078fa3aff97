import GridLoad.Proofs.Serving.World

set_option autoImplicit false

namespace GridLoad

open GridLoad.Time (Instant)

@[simp] theorem Slot.release_key (s : Slot) : s.release.key = s.key := by
  unfold release
  split <;> rfl

@[simp] theorem Slot.release_content (s : Slot) : s.release.content = s.content := by
  unfold release
  split <;> rfl

@[simp] theorem Slot.abandon_key (caller : Caller) (s : Slot) : (s.abandon caller).key = s.key := by
  simp only [abandon]
  split <;> simp

@[simp] theorem Slot.abandon_content (caller : Caller) (s : Slot) : (s.abandon caller).content = s.content := by
  simp only [abandon]
  split <;> simp

-- Whose turn it is, whether or not it stood in line.
def Slot.Admits (caller : Caller) (s : Slot) : Prop := s.lock = .free ∨ s.lock = .handed caller

namespace Cache

section Steps

variable {c : Cache} {now : Instant} {caller : Caller} {id : SlotId} {s : Slot}

-- A new slot for a key comes behind all others.
def allot (key : Key) (c : Cache) : Cache :=
  { c with slots := c.slots ++ [{ key := key }], index := c.index.insert key c.slots.length }

-- A key has its slot, or it gets a new one, after a purge where there is no room.
theorem slot_for_cases (c : Cache) (now : Instant) (key : Key) :
    (∃ id, c.index.get? key = some id ∧ c.slotFor now key = (c, id)) ∨
    (c.index.get? key = none ∧ c.size < c.limits.capacity ∧ c.slotFor now key = (c.allot key, c.slots.length)) ∨
    (c.index.get? key = none ∧ c.limits.capacity ≤ c.size ∧
      c.slotFor now key = ((c.purge now).allot key, c.slots.length)) := by
  cases found : c.index.get? key with
  | some id => exact .inl ⟨id, rfl, by simp only [slotFor, found]⟩
  | none =>
      by_cases full : c.limits.capacity ≤ c.size
      · exact .inr (.inr ⟨rfl, full, by simp only [slotFor, found, if_pos full]; rfl⟩)
      · exact .inr (.inl ⟨rfl, Nat.lt_of_not_le full, by simp only [slotFor, found, if_neg full]; rfl⟩)

-- What a caller meets tells how the cache is left.

theorem found_at {p : Prediction} (met : (c.enter now caller id).2 = .found p) :
    ∃ s, c.slots[id]? = some s ∧ s.Admits caller ∧ s.content.value? now = some p ∧
      (c.enter now caller id).1 = { c.change id Slot.release with hits := c.hits + 1 } := by
  unfold enter at met ⊢
  split at met
  · cases met
  · rename_i s there
    split at met
    · rename_i turn
      unfold look at met ⊢
      split at met
      · rename_i q served
        cases met
        exact ⟨s, there, turn, served, by simp [turn]⟩
      · cases met
    · split at met <;> cases met

theorem granted_at (met : (c.enter now caller id).2 = .granted) :
    ∃ s, c.slots[id]? = some s ∧ s.Admits caller ∧ s.content.value? now = none ∧
      (c.enter now caller id).1 =
        { c.change id fun s => { s with content := .empty, lock := .held caller } with misses := c.misses + 1 } := by
  unfold enter at met ⊢
  split at met
  · cases met
  · rename_i s there
    split at met
    · rename_i turn
      unfold look at met ⊢
      split at met
      · cases met
      · rename_i none
        exact ⟨s, there, turn, none, by simp [turn]⟩
    · split at met <;> cases met

theorem waits_at (met : (c.enter now caller id).2 = .waits) :
    (c.enter now caller id).1 = c ∨
      ∃ s, c.slots[id]? = some s ∧ ¬ s.Admits caller ∧ caller ∉ s.waiting ∧
        (c.enter now caller id).1 =
          { c.change id fun s => { s with waiting := s.waiting ++ [caller] } with coalesced := c.coalesced + 1 } := by
  unfold enter at met ⊢
  split at met
  · exact .inl rfl
  · rename_i s there
    split at met
    · unfold look at met
      split at met <;> cases met
    · rename_i turn
      by_cases lined : caller ∈ s.waiting
      · exact .inl (by simp [turn, lined])
      · exact .inr ⟨s, there, turn, lined, by simp [turn, lined]⟩

-- In any case no other slot changes and no slot its key, and what was stored stays or is dropped.
theorem enter_changes (c : Cache) (now : Instant) (caller : Caller) (id : SlotId) :
    ∃ f : Slot → Slot, (∀ s, (f s).key = s.key ∧ ((f s).content = s.content ∨ (f s).content = .empty)) ∧
    (c.enter now caller id).1.slots = c.slots.modify id f ∧ (c.enter now caller id).1.index = c.index := by
  cases met : (c.enter now caller id).2 with
  | waits =>
      rcases waits_at met with same | ⟨_, _, _, _, after⟩
      · exact ⟨fun s => s, fun _ => ⟨rfl, .inl rfl⟩, by rw [same]; exact (List.modify_id ..).symm, by rw [same]⟩
      · exact ⟨fun s => { s with waiting := s.waiting ++ [caller] }, fun _ => ⟨rfl, .inl rfl⟩,
          by rw [after]; rfl, by rw [after]; rfl⟩
  | found p =>
      obtain ⟨_, _, _, _, after⟩ := found_at met
      exact ⟨Slot.release, fun s => ⟨s.release_key, .inl s.release_content⟩, by rw [after]; rfl, by rw [after]; rfl⟩
  | granted =>
      obtain ⟨_, _, _, _, after⟩ := granted_at met
      exact ⟨fun s => { s with content := .empty, lock := .held caller }, fun _ => ⟨rfl, .inr rfl⟩,
        by rw [after]; rfl, by rw [after]; rfl⟩

theorem enter_admitted (there : c.slots[id]? = some s) (turn : s.Admits caller) :
    c.enter now caller id = c.look now caller id s := by
  simp only [enter, there]
  exact if_pos turn

theorem enter_kept_out (there : c.slots[id]? = some s) (out : ¬ s.Admits caller) :
    (c.enter now caller id).2 = .waits := by
  simp only [enter, there]
  rw [if_neg (show ¬ (s.lock = .free ∨ s.lock = .handed caller) from out)]
  split <;> rfl

end Steps

def key? (id : SlotId) (c : Cache) : Option Key := (c.slots[id]?).map (·.key)

-- Whatever is stored under a key, at whatever instant it expires, is right for that key, and the index leads
-- from a key to a slot of that key.
structure Sound (right : Key → Prediction → Prop) (c : Cache) : Prop where
  stored : ∀ (id : SlotId) (s : Slot) (p : Prediction) (expires : Instant), c.slots[id]? = some s →
    s.content = .ready p expires → right s.key p
  indexed : ∀ key id, c.index.get? key = some id → c.key? id = some key

-- Slots keep their keys, and stay when the index drops them.
def KeysKept (c c' : Cache) : Prop := ∀ id key, c.key? id = some key → c'.key? id = some key

variable {right : Key → Prediction → Prop} {c : Cache} {now : Instant} {caller : Caller} {id : SlotId}

theorem sound_weaken {right' : Key → Prediction → Prop} (sound : Sound right c)
    (weaker : ∀ key p, right key p → right' key p) : Sound right' c :=
  ⟨fun id s p expires there ready => weaker _ _ (sound.stored id s p expires there ready), sound.indexed⟩

theorem sound_empty (limits : CacheLimits) : Sound right { limits := limits } where
  stored _ _ _ _ there := nomatch there
  indexed _ _ found := nomatch found

theorem change_key (id : SlotId) (f : Slot → Slot) (kept : ∀ s, (f s).key = s.key) (other : SlotId) :
    (c.change id f).key? other = c.key? other := by
  simp only [key?, change, List.getElem?_modify]
  cases c.slots[other]? with
  | none => rfl
  | some s => by_cases same : id = other <;> simp [same, kept]

theorem change_sound (id : SlotId) (f : Slot → Slot) (sound : Sound right c) (kept : ∀ s, (f s).key = s.key)
    (stored : ∀ s p expires, c.slots[id]? = some s → (f s).content = .ready p expires →
      s.content = .ready p expires ∨ right s.key p) : Sound right (c.change id f) := by
  refine ⟨?_, fun key other found => (change_key id f kept other).trans (sound.indexed key other found)⟩
  intro other s p expires there ready
  simp only [change, List.getElem?_modify] at there
  by_cases same : id = other
  · subst same
    cases before : c.slots[id]? with
    | none => simp [before] at there
    | some old =>
        have changed : f old = s := by simpa [before] using there
        subst changed
        rw [kept]
        rcases stored old p expires before ready with unchanged | new
        · exact sound.stored id old p expires before unchanged
        · exact new
  · exact sound.stored other s p expires (by simpa [same] using there) ready

theorem changed_sound (id : SlotId) (f : Slot → Slot) (sound : Sound right c) (kept : ∀ s, (f s).key = s.key)
    (less : ∀ s, (f s).content = s.content ∨ (f s).content = .empty) : Sound right (c.change id f) := by
  refine change_sound id f sound kept fun s p expires _ ready => ?_
  rcases less s with same | empty
  · exact .inl (same ▸ ready)
  · rw [empty] at ready
    cases ready

theorem purge_sound (sound : Sound right c) : Sound right (c.purge now) :=
  ⟨sound.stored, fun key id found => sound.indexed key id (Table.get_filter_iff.mp found).1⟩

theorem retain_sound (generation : Nat) (sound : Sound right c) : Sound right (c.retain generation) :=
  ⟨sound.stored, fun key id found => sound.indexed key id (Table.get_filter_iff.mp found).1⟩

theorem abandon_key : (c.abandon caller).key? id = c.key? id := by
  simp only [key?, abandon, List.getElem?_map]
  cases c.slots[id]? <;> simp

theorem abandon_sound (sound : Sound right c) : Sound right (c.abandon caller) := by
  refine ⟨?_, fun key id found => abandon_key.trans (sound.indexed key id found)⟩
  intro id s p expires there ready
  simp only [abandon, List.getElem?_map] at there
  cases before : c.slots[id]? with
  | none => simp [before] at there
  | some old =>
      have changed : old.abandon caller = s := by simpa [before] using there
      subst changed
      simp only [Slot.abandon_key, Slot.abandon_content] at ready ⊢
      exact sound.stored id old p expires before ready

theorem allot_keys (c : Cache) (key : Key) : KeysKept c (c.allot key) := by
  intro id key found
  simp only [key?, Option.map_eq_some_iff] at found ⊢
  obtain ⟨s, there, same⟩ := found
  exact ⟨s, by rw [allot, List.getElem?_append_left (List.getElem?_eq_some_iff.mp there).1, there], same⟩

theorem slot_for_keys (key : Key) : KeysKept c (c.slotFor now key).1 := by
  rcases slot_for_cases c now key with ⟨_, _, same⟩ | ⟨_, _, same⟩ | ⟨_, _, same⟩ <;> rw [same]
  · exact fun _ _ found => found
  · exact c.allot_keys key
  · exact (c.purge now).allot_keys key

theorem allot_sound {key : Key} (sound : Sound right c) : Sound right (c.allot key) := by
  refine ⟨?_, ?_⟩
  · intro id s p expires there ready
    dsimp only [allot] at there
    by_cases old : id < c.slots.length
    · rw [List.getElem?_append_left old] at there
      exact sound.stored id s p expires there ready
    · rw [List.getElem?_append_right (Nat.le_of_not_lt old)] at there
      have fresh : ({ key := key } : Slot) = s := by
        cases place : id - c.slots.length <;> simp [place] at there
        exact there
      subst fresh
      cases ready
  · intro other id found
    rcases Table.get_insert_some found with ⟨rfl, rfl⟩ | before
    · simp [key?, allot]
    · exact c.allot_keys key id other (sound.indexed other id before)

theorem slot_for_sound {key : Key} (sound : Sound right c) : Sound right (c.slotFor now key).1 := by
  rcases slot_for_cases c now key with ⟨_, _, same⟩ | ⟨_, _, same⟩ | ⟨_, _, same⟩ <;> rw [same]
  · exact sound
  · exact allot_sound sound
  · exact allot_sound (purge_sound sound)

theorem slot_for_found {key : Key} (sound : Sound right c) :
    (c.slotFor now key).1.key? (c.slotFor now key).2 = some key := by
  rcases slot_for_cases c now key with ⟨_, mapped, same⟩ | ⟨_, _, same⟩ | ⟨_, _, same⟩ <;> rw [same]
  · exact sound.indexed _ _ mapped
  · simp [key?, allot]
  · simp [key?, allot, purge]

theorem enter_keys : KeysKept c (c.enter now caller id).1 := by
  intro other key found
  obtain ⟨f, less, slots, _⟩ := enter_changes c now caller id
  have same : (c.enter now caller id).1.key? other = (c.change id f).key? other := by simp only [key?, change, slots]
  rw [same, change_key id f fun s => (less s).1]
  exact found

theorem enter_sound (sound : Sound right c) : Sound right (c.enter now caller id).1 := by
  obtain ⟨f, less, slots, index⟩ := enter_changes c now caller id
  have changed := changed_sound id f sound (fun s => (less s).1) fun s => (less s).2
  constructor
  · rw [slots]
    exact changed.stored
  · rw [index]
    simp only [key?, slots]
    exact changed.indexed

theorem value_ready {content : Content} {p : Prediction} (served : content.value? now = some p) :
    ∃ expires, content = .ready p expires := by
  cases content with
  | empty => cases served
  | ready q expires =>
      simp only [Content.value?] at served
      split at served
      · exact ⟨expires, by rw [Option.some.inj served]⟩
      · cases served

theorem enter_found {p : Prediction} (sound : Sound right c) (found : (c.enter now caller id).2 = .found p) :
    ∃ key, c.key? id = some key ∧ right key p := by
  obtain ⟨s, there, _, served, _⟩ := found_at found
  obtain ⟨expires, ready⟩ := value_ready served
  exact ⟨s.key, by simp [key?, there], sound.stored id s p expires there ready⟩

theorem leave_keys (computed : Option Prediction) : KeysKept c (c.leave now id computed) := by
  intro other key found
  unfold leave
  split
  · exact (change_key id _ (fun _ => by simp) other).trans found
  · exact (change_key id Slot.release Slot.release_key other).trans found

theorem leave_sound {computed : Option Prediction} (sound : Sound right c)
    (fit : ∀ p, computed = some p → ∃ key, c.key? id = some key ∧ right key p) :
    Sound right (c.leave now id computed) := by
  unfold leave
  split
  · rename_i p s there
    have stored := change_sound id
      (fun s => { s with content := .ready p (now + c.limits.lifetime.nanos) }.release)
      sound (fun _ => by simp) fun old q expires held ready => by
        obtain ⟨key, known, good⟩ := fit p rfl
        have same : old.key = key := by simpa [key?, held] using known
        simp only [Slot.release_content, Content.ready.injEq] at ready
        exact .inr (same ▸ ready.1 ▸ good)
    exact ⟨stored.stored, stored.indexed⟩
  · exact changed_sound id Slot.release sound Slot.release_key fun s => .inl s.release_content

theorem withdraw_keys : KeysKept c (c.withdraw caller id) := by
  intro other key found
  refine (change_key id _ (fun s => ?_) other).trans found
  split <;> simp

theorem withdraw_sound (sound : Sound right c) : Sound right (c.withdraw caller id) := by
  refine changed_sound id _ sound (fun s => ?_) fun s => .inl ?_
  · split <;> simp
  · split <;> simp

end Cache

end GridLoad
