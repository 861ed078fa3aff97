import GridLoad.Cache.Calls
import GridLoad.Proofs.Cache.Locks

/-!
Calls on one cache as steps that come in any order, and the log of what the calls have done.
-/

set_option autoImplicit false

namespace GridLoad

open GridLoad.Time (Instant)

namespace Cache

variable {c c' : Cache} {now : Instant} {caller : Caller} {id : SlotId}

theorem same_keys (kept : KeysKept c c') (length : c'.slots.length = c.slots.length) : c'.key? id = c.key? id := by
  cases before : c.key? id with
  | some key => exact kept id key before
  | none =>
      simp only [key?, Option.map_eq_none_iff, List.getElem?_eq_none_iff] at before ⊢
      exact length ▸ before

theorem allot_added {key other : Key} (late : c.slots.length ≤ id) (known : (c.allot key).key? id = some other) :
    (c.allot key).index.get? other = some id := by
  obtain ⟨s, there, same⟩ := Option.map_eq_some_iff.mp known
  have within := (List.getElem?_eq_some_iff.mp there).1
  have last : id = c.slots.length := by
    rw [allot, List.length_append, List.length_singleton] at within
    exact Nat.le_antisymm (Nat.le_of_lt_succ within) late
  subst last
  simp [allot] at there
  subst there
  subst same
  exact Table.get_insert_self ..

theorem slot_for_added {key other : Key} (late : c.slots.length ≤ id)
    (known : (c.slotFor now key).1.key? id = some other) : (c.slotFor now key).1.index.get? other = some id := by
  rcases slot_for_cases c now key with ⟨_, _, same⟩ | ⟨_, _, same⟩ | ⟨_, _, same⟩ <;> rw [same] at known ⊢
  · have missing : c.key? id = none := by simp [key?, late]
    cases missing.symm.trans known
  · exact allot_added late known
  · exact allot_added (c := c.purge now) late known

theorem enter_parts : (c.enter now caller id).1.index = c.index ∧
    (c.enter now caller id).1.slots.length = c.slots.length := by
  obtain ⟨f, _, slots, index⟩ := enter_changes c now caller id
  exact ⟨index, by rw [slots, List.length_modify]⟩

theorem enter_elsewhere {other : SlotId} (different : other ≠ id) :
    (c.enter now caller id).1.slots[other]? = c.slots[other]? := by
  obtain ⟨f, _, slots, _⟩ := enter_changes c now caller id
  simp [slots, Ne.symm different]

theorem leave_parts (computed : Option Prediction) : (c.leave now id computed).index = c.index ∧
    (c.leave now id computed).slots.length = c.slots.length := by
  unfold leave
  split <;> exact ⟨rfl, List.length_modify ..⟩

theorem withdraw_parts : (c.withdraw caller id).index = c.index ∧
    (c.withdraw caller id).slots.length = c.slots.length := ⟨rfl, List.length_modify ..⟩

end Cache

inductive CallDeed where
  | arrived
  | waited
  | started
  | ended (result : Except Failure Cached)
  | dropped (computing : Bool)

structure CallEvent where
  call : Caller
  key : Key
  deed : CallDeed

def Entry.deed : Entry → CallDeed
  | .waits => .waited
  | .found p => .ended (.ok ⟨p, true⟩)
  | .granted => .started

namespace Calls

def Awaits (s : Calls) (call : Caller) (id : SlotId) : Prop := s.phases[call]? = some (.arrived id)

def Computes (s : Calls) (call : Caller) (id : SlotId) : Prop := s.phases[call]? = some (.computing id)

-- Every step but a purge is told of in the log.
inductive Step (now : Instant) (s : Calls) : Option CallEvent → Calls → Prop
  | arrives (key : Key) : Step now s (some ⟨(s.arrive now key).2, key, .arrived⟩) (s.arrive now key).1
  | enters {call : Caller} {id : SlotId} {key : Key} (there : s.Awaits call id)
      (known : s.cache.key? id = some key) :
      Step now s (some ⟨call, key, (s.cache.enter now call id).2.deed⟩) (s.enter now call)
  | finishes {call : Caller} {id : SlotId} {key : Key} (there : s.Computes call id)
      (known : s.cache.key? id = some key) (outcome : Except Failure Prediction) :
      Step now s (some ⟨call, key, .ended (outcome.map fun p => ⟨p, false⟩)⟩) (s.finish now call outcome)
  | leaves {call : Caller} {id : SlotId} {key : Key} (there : s.Awaits call id)
      (known : s.cache.key? id = some key) : Step now s (some ⟨call, key, .dropped false⟩) (s.drop now call)
  | breaksOff {call : Caller} {id : SlotId} {key : Key} (there : s.Computes call id)
      (known : s.cache.key? id = some key) : Step now s (some ⟨call, key, .dropped true⟩) (s.drop now call)
  | purges : Step now s none { s with cache := s.cache.purge now }

-- Whatever is stored can still be served.
def Unexpired (now : Instant) (s : Calls) : Prop :=
  ∀ slot ∈ s.cache.slots, slot.content = .empty ∨ (slot.content.value? now).isSome

instance (now : Instant) (s : Calls) : Decidable (s.Unexpired now) :=
  inferInstanceAs (Decidable (∀ slot ∈ s.cache.slots, slot.content = .empty ∨ (slot.content.value? now).isSome))

-- No lifetime has run out, and no slot is dropped from the index.
structure Calm (now : Instant) (s s' : Calls) : Prop where
  unexpired : s.Unexpired now
  stay : ∀ e ∈ s.cache.index.entries, e ∈ s'.cache.index.entries

inductive CalmRun (s : Calls) : List CallEvent → Calls → Prop
  | rest : CalmRun s [] s
  | more {s' s'' : Calls} {now : Instant} {log : List CallEvent} {e : Option CallEvent}
      (before : CalmRun s log s') (step : Step now s' e s'') (calm : Calm now s' s'') :
      CalmRun s (log ++ e.toList) s''

variable {s s' : Calls} {now : Instant} {call : Caller} {id : SlotId} {key : Key}

section Phases

theorem set_phase_self {old : CallPhase} (there : s.phases[call]? = some old) (phase : CallPhase) :
    (s.setPhase call phase).phases[call]? = some phase := by
  have within := (List.getElem?_eq_some_iff.mp there).1
  simp [setPhase, within]

theorem set_phase_other {other : Caller} (different : other ≠ call) (phase : CallPhase) :
    (s.setPhase call phase).phases[other]? = s.phases[other]? := by
  simp [setPhase, Ne.symm different]

theorem computes_moved {cache : Cache} {old : CallPhase} (there : s.phases[call]? = some old) (phase : CallPhase)
    (at' : SlotId) : ({ s with cache := cache }.setPhase call phase).Computes call at' ↔ phase = .computing at' := by
  unfold Computes
  rw [set_phase_self (s := { s with cache := cache }) there phase, Option.some_inj]

theorem computing_elsewhere {at' : SlotId} (awaiting : s.Awaits call id) : ¬ s.Computes call at' := by
  intro computing
  cases awaiting.symm.trans computing

theorem awaiting_elsewhere {at' : SlotId} (computing : s.Computes call id) : ¬ s.Awaits call at' := by
  intro awaiting
  cases awaiting.symm.trans computing

theorem awaits_only (awaiting : s.Awaits call id) : ∀ at', s.Awaits call at' → at' = id := by
  intro at' other
  cases awaiting.symm.trans other
  rfl

theorem computes_only (computing : s.Computes call id) : ∀ at', s.Computes call at' → at' = id := by
  intro at' other
  cases computing.symm.trans other
  rfl

-- Where one call goes on, the others are where they were.
theorem others_as_before {cache : Cache} (phase : CallPhase) (other : Caller) (different : other ≠ call) (at' : SlotId) :
    (({ s with cache := cache }.setPhase call phase).Computes other at' ↔ s.Computes other at') ∧
      (s.Awaits other at' → ({ s with cache := cache }.setPhase call phase).Awaits other at') := by
  simp [Computes, Awaits, set_phase_other different]

-- One that goes on past its slot waits no longer.
theorem awaits_moved {cache : Cache} {phase : CallPhase} {other : Caller} (past : ∀ at', phase ≠ .arrived at')
    (awaiting : ({ s with cache := cache }.setPhase call phase).Awaits other id) :
    other ≠ call ∧ s.Awaits other id := by
  have different : other ≠ call := by
    intro self
    subst self
    simp only [Awaits, setPhase, List.getElem?_set] at awaiting
    split at awaiting
    · split at awaiting
      · exact past id (Option.some.inj awaiting)
      · cases awaiting
    · contradiction
  exact ⟨different, by simpa [Awaits, set_phase_other different] using awaiting⟩

end Phases

section Moves

-- The functions on calls, for a call that is where they apply.

theorem enter_waiting (there : s.Awaits call id) (met : (s.cache.enter now call id).2 = .waits) :
    s.enter now call = { s with cache := (s.cache.enter now call id).1 } := by
  unfold enter
  rw [show s.phases[call]? = _ from there]
  dsimp only
  rw [met]

theorem enter_found {p : Prediction} (there : s.Awaits call id) (met : (s.cache.enter now call id).2 = .found p) :
    s.enter now call =
      { s with cache := (s.cache.enter now call id).1 }.setPhase call (.ended (.ok ⟨p, true⟩)) := by
  unfold enter
  rw [show s.phases[call]? = _ from there]
  dsimp only
  rw [met]

theorem enter_granted (there : s.Awaits call id) (met : (s.cache.enter now call id).2 = .granted) :
    s.enter now call = { s with cache := (s.cache.enter now call id).1 }.setPhase call (.computing id) := by
  unfold enter
  rw [show s.phases[call]? = _ from there]
  dsimp only
  rw [met]

theorem enter_cache (there : s.Awaits call id) : (s.enter now call).cache = (s.cache.enter now call id).1 := by
  cases met : (s.cache.enter now call id).2 with
  | waits => rw [enter_waiting there met]
  | found p =>
      rw [enter_found there met]
      rfl
  | granted =>
      rw [enter_granted there met]
      rfl

theorem finish_computing (there : s.Computes call id) (outcome : Except Failure Prediction) :
    s.finish now call outcome =
      { s with cache := s.cache.leave now id outcome.toOption }.setPhase call
        (.ended (outcome.map fun p => ⟨p, false⟩)) := by
  unfold finish
  rw [show s.phases[call]? = _ from there]

theorem drop_awaiting (there : s.Awaits call id) :
    s.drop now call = { s with cache := s.cache.withdraw call id }.setPhase call .dropped := by
  unfold drop
  rw [show s.phases[call]? = _ from there]

theorem drop_computing (there : s.Computes call id) :
    s.drop now call = { s with cache := s.cache.leave now id none }.setPhase call .dropped := by
  unfold drop
  rw [show s.phases[call]? = _ from there]

end Moves

-- The locks are in the hands of the calls, and every slot is found by its key.
structure Sound (s : Calls) : Prop where
  orderly : s.cache.Orderly s.Computes s.Awaits
  stored : s.cache.Sound fun _ _ => True
  mapped : ∀ id key, s.cache.key? id = some key → s.cache.index.get? key = some id
  known : ∀ call id, s.Awaits call id → ∃ key, s.cache.key? id = some key

theorem sound_fresh (limits : CacheLimits) : Sound { cache := { limits := limits } } where
  orderly := ⟨fun _ _ there => by simp at there, fun _ _ there => by simp [Computes] at there⟩
  stored := Cache.sound_empty limits
  mapped _ _ there := by simp [Cache.key?] at there
  known _ _ there := by simp [Awaits] at there

theorem sound_moved {cache : Cache} {phase : CallPhase} (sound : s.Sound) (past : ∀ at', phase ≠ .arrived at')
    (orderly : cache.Orderly ({ s with cache := cache }.setPhase call phase).Computes
      ({ s with cache := cache }.setPhase call phase).Awaits)
    (stored : cache.Sound fun _ _ => True) (keys : Cache.KeysKept s.cache cache)
    (parts : cache.index = s.cache.index ∧ cache.slots.length = s.cache.slots.length) :
    ({ s with cache := cache }.setPhase call phase).Sound := by
  refine ⟨orderly, stored, ?_, ?_⟩
  · intro id key known
    have before : s.cache.key? id = some key := (Cache.same_keys keys parts.2).symm.trans known
    exact (congrArg (·.get? key) parts.1).trans (sound.mapped id key before)
  · intro other id awaiting
    obtain ⟨key, known⟩ := sound.known other id (awaits_moved past awaiting).2
    exact ⟨key, keys id key known⟩

-- What is kept of the index is found as before.
theorem Calm.found (calm : Calm now s s') (before : s.cache.index.get? key = some id) :
    s'.cache.index.get? key = some id :=
  Table.get_of_entry (calm.stay (key, id) (Table.entry_of_get before))

theorem phase_appended {phases : List CallPhase} {last phase : CallPhase} (other : phase ≠ last) (o : Caller) :
    (phases ++ [last])[o]? = some phase ↔ phases[o]? = some phase := by
  by_cases old : o < phases.length
  · rw [List.getElem?_append_left old]
  · rw [List.getElem?_append_right (Nat.le_of_not_lt old), List.getElem?_eq_none (Nat.le_of_not_lt old)]
    constructor
    · intro there
      exact absurd (List.mem_singleton.mp (List.mem_of_getElem? there)) other
    · intro there
      cases there

section Locks

-- Each move of a call keeps the order of the locks, whatever the index leads to.
variable (orderly : s.cache.Orderly s.Computes s.Awaits)

include orderly

theorem arrive_orderly :
    (s.arrive now key).1.cache.Orderly (s.arrive now key).1.Computes (s.arrive now key).1.Awaits := by
  refine Cache.orderly_kept (Cache.slot_for_orderly key orderly) rfl (fun o at' => ?_) fun o at' before => ?_
  · exact phase_appended (by simp) o
  · have within := (List.getElem?_eq_some_iff.mp before).1
    exact (List.getElem?_append_left within).trans before

theorem enter_orderly (there : s.Awaits call id) :
    (s.enter now call).cache.Orderly (s.enter now call).Computes (s.enter now call).Awaits := by
  cases met : (s.cache.enter now call id).2 with
  | waits =>
      rw [enter_waiting there met]
      exact Cache.waits_orderly orderly (awaits_only there) there met
  | found p =>
      rw [enter_found there met]
      have apart : ∀ at', ({ s with cache := (s.cache.enter now call id).1 }.setPhase call
          (.ended (.ok ⟨p, true⟩))).Computes call at' ↔ s.Computes call at' := by
        intro at'
        rw [computes_moved there]
        simpa using computing_elsewhere there
      exact Cache.found_orderly orderly (others_as_before _) (awaits_only there) (fun at' _ => apart at') met (apart id)
  | granted =>
      rw [enter_granted there met]
      refine Cache.granted_orderly orderly (others_as_before _) (awaits_only there) (fun at' other => ?_) met
        ((computes_moved there _ id).mpr rfl)
      rw [computes_moved there]
      simpa [Ne.symm other] using computing_elsewhere there

theorem left_orderly {phase : CallPhase} (there : s.Computes call id) (computed : Option Prediction)
    (left : ∀ at', phase ≠ .computing at') :
    (s.cache.leave now id computed).Orderly
      ({ s with cache := s.cache.leave now id computed }.setPhase call phase).Computes
      ({ s with cache := s.cache.leave now id computed }.setPhase call phase).Awaits := by
  refine Cache.leave_orderly orderly (others_as_before phase) ?_ ?_ (fun at' => awaiting_elsewhere there) there ?_
  · intro at' awaiting
    exact absurd awaiting (awaiting_elsewhere there)
  · intro at' other
    rw [computes_moved there]
    exact iff_of_false (left at') fun computing => other (computes_only there at' computing)
  · rw [computes_moved there]
    exact left id

theorem leaves_orderly (there : s.Awaits call id) :
    (s.cache.withdraw call id).Orderly
      ({ s with cache := s.cache.withdraw call id }.setPhase call .dropped).Computes
      ({ s with cache := s.cache.withdraw call id }.setPhase call .dropped).Awaits := by
  have apart : ∀ at', ({ s with cache := s.cache.withdraw call id }.setPhase call .dropped).Computes call at' ↔
      s.Computes call at' := by
    intro at'
    rw [computes_moved there]
    simpa using computing_elsewhere there
  exact Cache.withdraw_orderly orderly (others_as_before _) (awaits_only there) (fun at' _ => apart at') (apart id)

end Locks

theorem arrive_sound (sound : s.Sound) (calm : Calm now s (s.arrive now key).1) : (s.arrive now key).1.Sound := by
  have found : (s.cache.slotFor now key).1.key? (s.cache.slotFor now key).2 = some key := Cache.slot_for_found sound.stored
  have keys : Cache.KeysKept s.cache (s.cache.slotFor now key).1 := Cache.slot_for_keys key
  refine ⟨arrive_orderly sound.orderly, Cache.slot_for_sound sound.stored, ?_, ?_⟩
  · intro id other known
    by_cases old : id < s.cache.slots.length
    · obtain ⟨kept, before⟩ : ∃ key, s.cache.key? id = some key := by simp [Cache.key?, old]
      have same : kept = other := Option.some.inj ((keys id kept before).symm.trans known)
      exact same ▸ calm.found (sound.mapped id kept before)
    · exact Cache.slot_for_added (Nat.le_of_not_lt old) known
  · intro other id awaiting
    by_cases same : CallPhase.arrived id = .arrived (s.cache.slotFor now key).2
    · cases same
      exact ⟨key, found⟩
    · obtain ⟨kept, known⟩ := sound.known other id ((phase_appended same other).mp awaiting)
      exact ⟨kept, keys id kept known⟩

theorem enter_sound (sound : s.Sound) (there : s.Awaits call id) : (s.enter now call).Sound := by
  have stored : (s.cache.enter now call id).1.Sound fun _ _ => True := Cache.enter_sound sound.stored
  have keys : Cache.KeysKept s.cache (s.cache.enter now call id).1 := Cache.enter_keys
  have parts : (s.cache.enter now call id).1.index = s.cache.index ∧
      (s.cache.enter now call id).1.slots.length = s.cache.slots.length := Cache.enter_parts
  have orderly : (s.enter now call).cache.Orderly (s.enter now call).Computes (s.enter now call).Awaits :=
    enter_orderly sound.orderly there
  cases met : (s.cache.enter now call id).2 with
  | waits =>
      rw [enter_waiting there met] at orderly ⊢
      refine ⟨orderly, stored, ?_, ?_⟩
      · intro other key known
        have before := (Cache.same_keys keys parts.2).symm.trans known
        exact (congrArg (·.get? key) parts.1).trans (sound.mapped other key before)
      · intro other at' awaiting
        obtain ⟨key, known⟩ := sound.known other at' awaiting
        exact ⟨key, keys at' key known⟩
  | found p =>
      rw [enter_found there met] at orderly ⊢
      exact sound_moved sound (by simp) orderly stored keys parts
  | granted =>
      rw [enter_granted there met] at orderly ⊢
      exact sound_moved sound (by simp) orderly stored keys parts

-- A computation ends, with something to store or without.
theorem left_sound {phase : CallPhase} (sound : s.Sound) (there : s.Computes call id) (computed : Option Prediction)
    (past : ∀ at', phase ≠ .arrived at') (left : ∀ at', phase ≠ .computing at') :
    ({ s with cache := s.cache.leave now id computed }.setPhase call phase).Sound := by
  refine sound_moved sound past (left_orderly sound.orderly there computed left) ?_ (Cache.leave_keys computed)
    (Cache.leave_parts computed)
  refine Cache.leave_sound sound.stored fun p _ => ?_
  obtain ⟨slot, held, _⟩ := sound.orderly.holders call id there
  exact ⟨slot.key, by simp [Cache.key?, held], trivial⟩

theorem leaves_sound (sound : s.Sound) (there : s.Awaits call id) : (s.drop now call).Sound := by
  rw [drop_awaiting there]
  exact sound_moved sound (by simp) (leaves_orderly sound.orderly there) (Cache.withdraw_sound sound.stored)
    Cache.withdraw_keys Cache.withdraw_parts

theorem step_sound {e : Option CallEvent} (sound : s.Sound) (step : Step now s e s') (calm : Calm now s s') :
    s'.Sound := by
  cases step with
  | arrives key => exact arrive_sound sound calm
  | enters there known => exact enter_sound sound there
  | finishes there known outcome =>
      rw [finish_computing there outcome]
      exact left_sound sound there outcome.toOption (by simp) (by simp)
  | leaves there known => exact leaves_sound sound there
  | breaksOff there known =>
      rw [drop_computing there]
      exact left_sound sound there none (by simp) (by simp)
  | purges =>
      refine ⟨⟨sound.orderly.slots, sound.orderly.holders⟩, Cache.purge_sound sound.stored, ?_, sound.known⟩
      intro id key known
      exact calm.found (sound.mapped id key known)

theorem run_sound {log : List CallEvent} (sound : s.Sound) (run : CalmRun s log s') : s'.Sound := by
  induction run with
  | rest => exact sound
  | more _ step calm ih => exact step_sound ih step calm

end Calls

end GridLoad
