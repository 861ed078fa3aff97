import GridLoad.Proofs.Cache.Recall
import GridLoad.Proofs.Table

/-!
How many keys a cache holds. A new key drops those that are idle once there are as many as the capacity, so that what
is left beyond it are values that can still be served, and keys that are being computed. Computations may be nested in
one another: the forecast of a group computes those of its members while it holds its own slot.
-/

set_option autoImplicit false

namespace GridLoad

open GridLoad.Time (Instant)

-- What is done to a cache by one after the other, where reading it changes nothing. A call that is to compute goes on
-- until it ends or is broken off, and others may come and go in between, as those for the members of a group do. One
-- that would have to wait is given up, as nobody else goes on meanwhile.
inductive CacheMove where
  | call (key : Key) (arrives looks : Instant)
  | finish (call : Caller) (now : Instant) (outcome : Except Failure Prediction)
  | breakOff (call : Caller) (now : Instant)
  | purge (now : Instant)
  | retain (generation : Nat)
  | clear

-- No computation ends with a value.
def CacheMove.fails : CacheMove → Bool
  | .finish _ _ outcome => outcome.toOption.isNone
  | _ => true

namespace Cache

variable {c : Cache} {now : Instant} {key other : Key} {caller : Caller} {id : SlotId}

theorem enter_limits : (c.enter now caller id).1.limits = c.limits := by
  cases met : (c.enter now caller id).2 with
  | waits =>
      rcases waits_at met with same | ⟨_, _, _, _, after⟩
      · rw [same]
      · rw [after]; rfl
  | found p =>
      obtain ⟨_, _, _, _, after⟩ := found_at met
      rw [after]; rfl
  | granted =>
      obtain ⟨_, _, _, _, after⟩ := granted_at met
      rw [after]; rfl

theorem leave_limits (computed : Option Prediction) : (c.leave now id computed).limits = c.limits := by
  unfold leave
  split <;> rfl

theorem slot_for_limits (now : Instant) (key : Key) : (c.slotFor now key).1.limits = c.limits := by
  rcases slot_for_cases c now key with ⟨_, _, same⟩ | ⟨_, _, same⟩ | ⟨_, _, same⟩ <;> rw [same] <;> rfl

-- A key that is not there gets a new slot after all others.
theorem slot_for_missing (missing : c.index.get? key = none) (now : Instant) :
    (c.slotFor now key).1.slots = c.slots ++ [{ key := key }] ∧ (c.slotFor now key).2 = c.slots.length := by
  rcases slot_for_cases c now key with ⟨_, mapped, _⟩ | ⟨_, _, same⟩ | ⟨_, _, same⟩
  · cases missing.symm.trans mapped
  · rw [same]
    exact ⟨rfl, rfl⟩
  · rw [same]
    exact ⟨rfl, rfl⟩

theorem slot_for_mapped (now : Instant) (key : Key) :
    (c.slotFor now key).1.index.get? key = some (c.slotFor now key).2 := by
  rcases slot_for_cases c now key with ⟨_, mapped, same⟩ | ⟨_, _, same⟩ | ⟨_, _, same⟩ <;> rw [same]
  · exact mapped
  · exact Table.get_insert_self ..
  · exact Table.get_insert_self ..

/-- A new key leaves room within the capacity, or nothing else is left that is idle. -/
theorem slot_for_bound (missing : c.index.get? key = none) (now : Instant) :
    (c.slotFor now key).1.size ≤ c.limits.capacity ∨
      ∀ other id, other ≠ key → (c.slotFor now key).1.index.get? other = some id →
        ∃ slot, c.slots[id]? = some slot ∧ slot.isIdle now = false := by
  rcases slot_for_cases c now key with ⟨_, mapped, _⟩ | ⟨_, room, same⟩ | ⟨_, _, same⟩
  · cases missing.symm.trans mapped
  · left
    rw [same]
    exact Nat.le_trans (Table.size_insert_le ..) room
  · right
    intro other id different found
    rw [same] at found
    have left : (c.purge now).index.get? other = some id := (Table.get_insert_other _ _ _ _ different).symm.trans found
    have busy : (c.slots[id]?.all (Slot.isIdle now)) = false := by simpa using (Table.get_filter_iff.mp left).2
    cases there : c.slots[id]? with
    | none => simp [there] at busy
    | some slot => exact ⟨slot, rfl, by simpa [there] using busy⟩

end Cache

namespace Calls

variable {limits : CacheLimits} {s : Calls} {now looks : Instant} {call other : Caller} {id : SlotId} {key : Key}

-- A call looks into its slot, and is given up where it would have to wait.
def venture (now : Instant) (call : Caller) (s : Calls) : Calls :=
  if (s.enter now call).phases[call]?.any isArrived then (s.enter now call).drop now call else s.enter now call

def move (s : Calls) : CacheMove → Calls
  | .call key arrives looks => (s.arrive arrives key).1.venture looks (s.arrive arrives key).2
  | .finish call now outcome => s.finish now call outcome
  | .breakOff call now => s.drop now call
  | .purge now => { s with cache := s.cache.purge now }
  | .retain generation => { s with cache := s.cache.retain generation }
  | .clear => { s with cache := s.cache.clear }

section Kept

-- The order of the locks and of the keys, which calls in any order keep.
structure Kept (limits : CacheLimits) (s : Calls) : Prop where
  orderly : s.cache.Orderly s.Computes s.Awaits
  stored : s.cache.Sound fun _ _ => True
  limits : s.cache.limits = limits

theorem kept_fresh (limits : CacheLimits) : Kept limits { cache := { limits := limits } } :=
  ⟨(sound_fresh limits).orderly, (sound_fresh limits).stored, rfl⟩

theorem arrive_kept (kept : s.Kept limits) (now : Instant) (key : Key) : (s.arrive now key).1.Kept limits :=
  ⟨arrive_orderly kept.orderly, Cache.slot_for_sound kept.stored, (Cache.slot_for_limits now key).trans kept.limits⟩

theorem enter_kept (kept : s.Kept limits) (now : Instant) (call : Caller) : (s.enter now call).Kept limits := by
  rcases awaits_or_apart s now call with ⟨id, there⟩ | apart
  · refine ⟨enter_orderly kept.orderly there, ?_, ?_⟩
    · rw [enter_cache there]
      exact Cache.enter_sound kept.stored
    · rw [enter_cache there, Cache.enter_limits, kept.limits]
  · rwa [apart]

-- A computation ends, with something to store or without.
theorem left_kept {phase : CallPhase} (kept : s.Kept limits) (there : s.Computes call id)
    (computed : Option Prediction) (left : ∀ at', phase ≠ .computing at') :
    ({ s with cache := s.cache.leave now id computed }.setPhase call phase).Kept limits := by
  refine ⟨left_orderly kept.orderly there computed left, Cache.leave_sound kept.stored fun p _ => ?_,
    (Cache.leave_limits computed).trans kept.limits⟩
  obtain ⟨slot, held, _⟩ := kept.orderly.holders call id there
  exact ⟨slot.key, by simp [Cache.key?, held], trivial⟩

theorem finish_cases (s : Calls) (now : Instant) (call : Caller) (outcome : Except Failure Prediction) :
    (∃ id, s.Computes call id) ∨ s.finish now call outcome = s := by
  unfold finish
  split
  · exact .inl ⟨_, ‹_›⟩
  · exact .inr rfl

theorem drop_cases (s : Calls) (now : Instant) (call : Caller) :
    (∃ id, s.Awaits call id) ∨ (∃ id, s.Computes call id) ∨ s.drop now call = s := by
  unfold drop
  split
  · exact .inl ⟨_, ‹_›⟩
  · exact .inr (.inl ⟨_, ‹_›⟩)
  · exact .inr (.inr rfl)

theorem finish_kept (kept : s.Kept limits) (now : Instant) (call : Caller) (outcome : Except Failure Prediction) :
    (s.finish now call outcome).Kept limits := by
  rcases finish_cases s now call outcome with ⟨id, there⟩ | apart
  · rw [finish_computing there]
    exact left_kept kept there _ (by simp)
  · rwa [apart]

theorem drop_kept (kept : s.Kept limits) (now : Instant) (call : Caller) : (s.drop now call).Kept limits := by
  rcases drop_cases s now call with ⟨id, there⟩ | ⟨id, there⟩ | apart
  · rw [drop_awaiting there]
    exact ⟨leaves_orderly kept.orderly there, Cache.withdraw_sound kept.stored, kept.limits⟩
  · rw [drop_computing there]
    exact left_kept kept there none (by simp)
  · rwa [apart]

theorem index_kept (kept : s.Kept limits) (keep : Key → SlotId → Bool) :
    Kept limits { s with cache := { s.cache with index := s.cache.index.filter keep } } :=
  ⟨⟨kept.orderly.slots, kept.orderly.holders⟩,
    ⟨kept.stored.stored, fun key id found => kept.stored.indexed key id (Table.get_filter_iff.mp found).1⟩, kept.limits⟩

theorem clear_kept (kept : s.Kept limits) : Kept limits { s with cache := s.cache.clear } :=
  ⟨⟨kept.orderly.slots, kept.orderly.holders⟩, ⟨kept.stored.stored, fun _ _ found => nomatch found⟩, kept.limits⟩

theorem venture_kept (kept : s.Kept limits) (now : Instant) (call : Caller) : (s.venture now call).Kept limits := by
  have entered := enter_kept kept now call
  unfold venture
  split
  · exact drop_kept entered now call
  · exact entered

theorem move_kept (kept : s.Kept limits) (m : CacheMove) : (s.move m).Kept limits := by
  cases m with
  | call key arrives looks => exact venture_kept (arrive_kept kept arrives key) looks _
  | finish call now outcome => exact finish_kept kept now call outcome
  | breakOff call now => exact drop_kept kept now call
  | purge now => exact index_kept kept _
  | retain generation => exact index_kept kept _
  | clear => exact clear_kept kept

end Kept

section Alone

-- Nobody waits between two moves.
structure Nested (limits : CacheLimits) (s : Calls) : Prop extends Kept limits s where
  unawaited : ∀ call id, ¬ s.Awaits call id

theorem nested_fresh (limits : CacheLimits) : Nested limits { cache := { limits := limits } } :=
  ⟨kept_fresh limits, fun _ _ there => by simp [Awaits] at there⟩

theorem arrived_iff : s.phases[call]?.any isArrived = true ↔ ∃ id, s.Awaits call id := by
  unfold Awaits
  cases s.phases[call]? with
  | none => simp
  | some phase => cases phase <;> simp [isArrived]

theorem arrive_awaits_only (unawaited : ∀ call id, ¬ s.Awaits call id)
    (awaits : (s.arrive now key).1.Awaits other id) : other = (s.arrive now key).2 := by
  by_contra different
  have last : other ≠ s.phases.length := different
  have within : other < s.phases.length + 1 := by
    simpa [arrive] using (List.getElem?_eq_some_iff.mp awaits).1
  have old : other < s.phases.length := Nat.lt_of_le_of_ne (Nat.lt_succ_iff.mp within) last
  exact unawaited other id ((List.getElem?_append_left old).symm.trans awaits)

theorem finish_unawaited (unawaited : ∀ call id, ¬ s.Awaits call id) (now : Instant) (call : Caller)
    (outcome : Except Failure Prediction) (other : Caller) (id : SlotId) :
    ¬ (s.finish now call outcome).Awaits other id := by
  rcases finish_cases s now call outcome with ⟨at', there⟩ | apart
  · rw [finish_computing there]
    exact fun awaits => unawaited other id (awaits_moved (by simp) awaits).2
  · rw [apart]
    exact unawaited other id

-- Whoever gives up waits no longer.
theorem drop_awaits (awaits : (s.drop now call).Awaits other id) : other ≠ call ∧ s.Awaits other id := by
  rcases drop_cases s now call with ⟨at', there⟩ | ⟨at', there⟩ | apart
  · rw [drop_awaiting there] at awaits
    exact awaits_moved (by simp) awaits
  · rw [drop_computing there] at awaits
    exact awaits_moved (by simp) awaits
  · rw [apart] at awaits
    refine ⟨?_, awaits⟩
    rintro rfl
    have dropped := congrArg (·.phases[other]?) ((drop_awaiting awaits).symm.trans apart)
    cases (set_phase_self awaits .dropped).symm.trans (dropped.trans awaits)

theorem venture_unawaited (only : ∀ other id, s.Awaits other id → other = call) (now : Instant) (other : Caller)
    (id : SlotId) : ¬ (s.venture now call).Awaits other id := by
  unfold venture
  intro awaits
  split at awaits
  next arrived =>
    obtain ⟨different, awaits⟩ := drop_awaits awaits
    exact different (only other id (awaits_before awaits))
  next past =>
    cases only other id (awaits_before awaits)
    exact past (arrived_iff.mpr ⟨id, awaits⟩)

theorem move_nested (nested : s.Nested limits) (m : CacheMove) : (s.move m).Nested limits := by
  refine ⟨move_kept nested.toKept m, fun other id => ?_⟩
  cases m with
  | call key arrives looks => exact venture_unawaited (fun _ _ => arrive_awaits_only nested.unawaited) looks other id
  | finish call now outcome => exact finish_unawaited nested.unawaited now call outcome other id
  | breakOff call now => exact fun awaits => nested.unawaited other id (drop_awaits awaits).2
  | purge now => exact nested.unawaited other id
  | retain generation => exact nested.unawaited other id
  | clear => exact nested.unawaited other id

end Alone

section Bound

-- A slot has a value that can still be served, or somebody computes it.
def Live (now : Instant) (s : Calls) (id : SlotId) : Prop :=
  (∃ slot p, s.cache.slots[id]? = some slot ∧ slot.content.value? now = some p) ∨ ∃ call, s.Computes call id

theorem busy_live {slot : Slot} (nested : s.Nested limits) (there : s.cache.slots[id]? = some slot)
    (busy : slot.isIdle now = false) : s.Live now id := by
  have orderly := nested.orderly.slots id slot there
  cases lock : slot.lock with
  | free =>
      have served : slot.content.value? now ≠ none := by
        simpa [Slot.isIdle, lock, Option.isSome_iff_ne_none] using busy
      obtain ⟨p, served⟩ := Option.ne_none_iff_exists'.mp served
      exact .inl ⟨slot, p, there, served⟩
  | held call => exact .inr ⟨call, (orderly.held call lock).1⟩
  | handed call => exact absurd (orderly.handed call lock).1 (nested.unawaited call id)

-- Another call that arrives changes nothing about a slot.
theorem arrive_live (missing : s.cache.index.get? key = none) (live : s.Live now id) (arrives : Instant) :
    (s.arrive arrives key).1.Live now id := by
  rcases live with ⟨slot, p, there, served⟩ | ⟨call, computes⟩
  · refine .inl ⟨slot, p, ?_, served⟩
    change (s.cache.slotFor arrives key).1.slots[id]? = some slot
    rw [(Cache.slot_for_missing missing arrives).1]
    exact (List.getElem?_append_left (List.getElem?_eq_some_iff.mp there).1).trans there
  · exact .inr ⟨call, (phase_appended (by simp) call).mpr computes⟩

theorem arrive_bound (nested : s.Nested limits) (missing : s.cache.index.get? key = none) (now : Instant) :
    (s.arrive now key).1.cache.size ≤ limits.capacity ∨
      ∀ other id, other ≠ key → (s.arrive now key).1.cache.index.get? other = some id →
        (s.arrive now key).1.Live now id := by
  rw [← nested.limits]
  refine (Cache.slot_for_bound missing now).imp_right fun busy other id different found => ?_
  obtain ⟨slot, there, busy⟩ := busy other id different found
  exact arrive_live missing (busy_live nested there busy) now

end Bound

section Barren

-- Nothing was ever stored.
def Barren (s : Calls) : Prop := ∀ slot ∈ s.cache.slots, slot.content = .empty

theorem modified_barren {slots : List Slot} {f : Slot → Slot} (barren : s.Barren)
    (less : ∀ slot, (f slot).content = slot.content ∨ (f slot).content = .empty)
    (changed : slots = s.cache.slots.modify id f) : ∀ slot ∈ slots, slot.content = .empty := by
  intro slot member
  obtain ⟨at', there⟩ := List.mem_iff_getElem?.mp (changed ▸ member)
  rw [List.getElem?_modify] at there
  obtain ⟨old, before, rfl⟩ := Option.map_eq_some_iff.mp there
  have empty := barren old (List.mem_of_getElem? before)
  split
  · exact (less old).elim (·.trans empty) fun emptied => emptied
  · exact empty

theorem arrive_barren (barren : s.Barren) (now : Instant) (key : Key) : (s.arrive now key).1.Barren := by
  intro slot member
  change slot ∈ (s.cache.slotFor now key).1.slots at member
  have slots : (s.cache.slotFor now key).1.slots = s.cache.slots ∨
      (s.cache.slotFor now key).1.slots = s.cache.slots ++ [{ key := key }] := Cache.slot_for_slots
  rcases slots with same | added
  · exact barren slot (same ▸ member)
  · rw [added] at member
    rcases List.mem_append.mp member with old | new
    · exact barren slot old
    · cases List.mem_singleton.mp new
      rfl

theorem enter_barren (barren : s.Barren) (now : Instant) (call : Caller) : (s.enter now call).Barren := by
  rcases awaits_or_apart s now call with ⟨id, there⟩ | apart
  · obtain ⟨f, less, slots, _⟩ := Cache.enter_changes s.cache now call id
    intro slot
    rw [enter_cache there]
    exact modified_barren barren (fun slot => (less slot).2) slots slot
  · rwa [apart]

theorem finish_barren {outcome : Except Failure Prediction} (barren : s.Barren) (failed : outcome.toOption = none)
    (now : Instant) (call : Caller) : (s.finish now call outcome).Barren := by
  rcases finish_cases s now call outcome with ⟨id, there⟩ | apart
  · rw [finish_computing there, failed]
    exact modified_barren barren (fun slot => .inl slot.release_content) rfl
  · rwa [apart]

theorem drop_barren (barren : s.Barren) (now : Instant) (call : Caller) : (s.drop now call).Barren := by
  rcases drop_cases s now call with ⟨id, there⟩ | ⟨id, there⟩ | apart
  · rw [drop_awaiting there]
    refine modified_barren barren (fun slot => .inl ?_) rfl
    split <;> simp
  · rw [drop_computing there]
    exact modified_barren barren (fun slot => .inl slot.release_content) rfl
  · rwa [apart]

theorem move_barren {m : CacheMove} (barren : s.Barren) (fails : m.fails = true) : (s.move m).Barren := by
  cases m with
  | call key arrives looks =>
      have entered := enter_barren (arrive_barren barren arrives key) looks (s.arrive arrives key).2
      unfold move venture
      dsimp only
      split
      · exact drop_barren entered looks _
      · exact entered
  | finish call now outcome => exact finish_barren barren (Option.isNone_iff_eq_none.mp fails) now call
  | breakOff call now => exact drop_barren barren now call
  | purge now => exact barren
  | retain generation => exact barren
  | clear => exact barren

end Barren

section Counted

-- The slots at which calls compute.
def busy (s : Calls) : List SlotId :=
  s.phases.filterMap fun
    | .computing id => some id
    | _ => none

theorem mem_busy : id ∈ s.busy ↔ ∃ call, s.Computes call id := by
  unfold busy Computes
  rw [List.mem_filterMap]
  constructor
  · rintro ⟨phase, member, is⟩
    obtain ⟨call, there⟩ := List.mem_iff_getElem?.mp member
    cases phase <;> cases is
    exact ⟨call, there⟩
  · rintro ⟨call, there⟩
    exact ⟨_, List.mem_of_getElem? there, rfl⟩

-- A key that is new to the cache is computed.
theorem call_computes (missing : s.cache.index.get? key = none) (arrives looks : Instant) :
    (s.move (.call key arrives looks)).busy = s.busy ++ [s.cache.slots.length] := by
  have awaits := arrive_awaits s arrives key
  obtain ⟨slots, last⟩ := Cache.slot_for_missing missing arrives
  have there : (s.arrive arrives key).1.cache.slots[(s.cache.slotFor arrives key).2]? = some { key := key } := by
    simp [arrive, slots, last]
  have met : ((s.arrive arrives key).1.cache.enter looks (s.arrive arrives key).2
      (s.cache.slotFor arrives key).2).2 = .granted := by
    rw [Cache.enter_admitted there (.inl rfl)]
    rfl
  have granted := enter_granted awaits met
  have past : ((s.arrive arrives key).1.enter looks (s.arrive arrives key).2).phases =
      s.phases ++ [.computing s.cache.slots.length] := by
    rw [granted, last]
    simp [arrive, setPhase]
  have unawaited : ¬ ((s.arrive arrives key).1.enter looks (s.arrive arrives key).2).phases[(s.arrive arrives
      key).2]?.any isArrived = true := by
    rw [past]
    simp [arrive, isArrived]
  rw [move, venture, if_neg unawaited, busy, past]
  simp [busy]

theorem drop_index (s : Calls) (now : Instant) (call : Caller) : (s.drop now call).cache.index = s.cache.index := by
  rcases drop_cases s now call with ⟨id, there⟩ | ⟨id, there⟩ | apart
  · rw [drop_awaiting there]
    rfl
  · rw [drop_computing there]
    exact (Cache.leave_parts _).1
  · rw [apart]

theorem finish_index (s : Calls) (now : Instant) (call : Caller) (outcome : Except Failure Prediction) :
    (s.finish now call outcome).cache.index = s.cache.index := by
  rcases finish_cases s now call outcome with ⟨id, there⟩ | apart
  · rw [finish_computing there]
    exact (Cache.leave_parts _).1
  · rw [apart]

theorem venture_index (s : Calls) (now : Instant) (call : Caller) :
    (s.venture now call).cache.index = s.cache.index := by
  have entered : (s.enter now call).cache.index = s.cache.index := by
    rcases awaits_or_apart s now call with ⟨id, there⟩ | apart
    · rw [enter_cache there]
      exact Cache.enter_parts.1
    · rw [apart]
  unfold venture
  split
  · exact (drop_index ..).trans entered
  · exact entered

-- Keys have slots of their own, so that there are not more of them than slots that are computed, and the new one.
theorem arrive_size (nested : s.Nested limits) (barren : s.Barren) (missing : s.cache.index.get? key = none)
    (now : Instant) (beyond : ¬ (s.arrive now key).1.cache.size ≤ limits.capacity) :
    (s.arrive now key).1.cache.size ≤ s.busy.length + 1 := by
  have live := (arrive_bound nested missing now).resolve_left beyond
  have kept := arrive_kept nested.toKept now key
  have barren := arrive_barren barren now key
  have once : ((s.arrive now key).1.cache.index.entries.map (·.2)).Nodup := by
    refine List.Nodup.map_on ?_ (List.Nodup.of_map _ (Table.keys_nodup _))
    rintro ⟨k, id⟩ member ⟨k', id'⟩ member' same
    cases same
    have known := kept.stored.indexed k id (Table.get_of_entry member)
    have known' := kept.stored.indexed k' id (Table.get_of_entry member')
    cases known.symm.trans known'
    rfl
  have among : (s.arrive now key).1.cache.index.entries.map (·.2) ⊆ (s.cache.slotFor now key).2 :: s.busy := by
    intro id member
    obtain ⟨⟨other, id⟩, entry, rfl⟩ := List.mem_map.mp member
    have found := Table.get_of_entry entry
    by_cases same : other = key
    · subst same
      exact List.mem_cons.mpr (.inl (Option.some.inj (found.symm.trans (Cache.slot_for_mapped now other))))
    · rcases live other id same found with ⟨slot, p, there, served⟩ | ⟨call, computes⟩
      · rw [barren slot (List.mem_of_getElem? there)] at served
        cases served
      · exact List.mem_cons_of_mem _ (mem_busy.mpr ⟨call, (phase_appended (by simp) call).mp computes⟩)
  have fewer := (List.subperm_of_subset once among).length_le
  simpa [Cache.size, Table.size] using fewer

-- The number of keys that are held stays within the capacity, or within the number of those that are computed.
theorem move_size {depth : Nat} {m : CacheMove} (nested : s.Nested limits) (barren : s.Barren)
    (bound : s.cache.size ≤ max limits.capacity depth) (shallow : (s.move m).busy.length ≤ depth) :
    (s.move m).cache.size ≤ max limits.capacity depth := by
  unfold Cache.size at bound ⊢
  cases m with
  | call key arrives looks =>
      have same : (s.move (.call key arrives looks)).cache.index = (s.arrive arrives key).1.cache.index :=
        venture_index ..
      rw [same]
      cases found : s.cache.index.get? key with
      | some id =>
          have there : (s.arrive arrives key).1.cache = s.cache := by simp [arrive, Cache.slotFor, found]
          rwa [there]
      | none =>
          rw [call_computes found, List.length_append, List.length_singleton] at shallow
          have within := arrive_size nested barren found arrives
          unfold Cache.size at within
          omega
  | finish call now outcome => rwa [show (s.move (.finish call now outcome)).cache.index = _ from finish_index ..]
  | breakOff call now => rwa [show (s.move (.breakOff call now)).cache.index = _ from drop_index ..]
  | purge now => exact Nat.le_trans (List.length_filter_le ..) bound
  | retain generation => exact Nat.le_trans (List.length_filter_le ..) bound
  | clear => exact Nat.zero_le _

end Counted

end Calls

-- What the moves make of a cache that is new.
def CacheLimits.moved (limits : CacheLimits) (moves : List CacheMove) : Calls :=
  moves.foldl Calls.move { cache := { limits := limits } }

section Runs

variable {limits : CacheLimits} {moves : List CacheMove}

theorem moved_concat (limits : CacheLimits) (moves : List CacheMove) (m : CacheMove) :
    limits.moved (moves ++ [m]) = (limits.moved moves).move m := List.foldl_concat ..

theorem moved_nested (limits : CacheLimits) (moves : List CacheMove) : (limits.moved moves).Nested limits := by
  induction moves using List.reverseRecOn with
  | nil => exact Calls.nested_fresh limits
  | append_singleton moves m ih =>
      rw [moved_concat]
      exact Calls.move_nested ih m

theorem moved_barren (fails : ∀ m ∈ moves, m.fails = true) : (limits.moved moves).Barren := by
  induction moves using List.reverseRecOn with
  | nil => exact fun _ member => nomatch member
  | append_singleton moves m ih =>
      rw [moved_concat]
      exact Calls.move_barren (ih fun other member => fails other (by simp [member])) (fails m (by simp))

theorem moved_size {depth : Nat} (fails : ∀ m ∈ moves, m.fails = true)
    (shallow : ∀ before, before <+: moves → (limits.moved before).busy.length ≤ depth) :
    (limits.moved moves).cache.size ≤ max limits.capacity depth := by
  induction moves using List.reverseRecOn with
  | nil => exact Nat.zero_le _
  | append_singleton moves m ih =>
      have failed : ∀ other ∈ moves, other.fails = true := fun other member => fails other (by simp [member])
      have bound := ih failed fun before earlier => shallow before (earlier.trans (List.prefix_append ..))
      have last := shallow (moves ++ [m]) (List.prefix_refl _)
      rw [moved_concat] at last ⊢
      exact Calls.move_size (moved_nested limits moves) (moved_barren failed) bound last

end Runs

/--
When a key is new to a cache, there are not more keys than the capacity, or each of the others has a value that can
still be served or is being computed, however computations were nested, failed and expired before. Where none ends with
a value, there are never more keys than the capacity, or than went on being computed at a time.
-/
theorem capacity_exceeded_by_live (limits : CacheLimits) (moves : List CacheMove) :
    (∀ key now, (limits.moved moves).cache.index.get? key = none →
      let inserted := ((limits.moved moves).arrive now key).1
      inserted.cache.size ≤ limits.capacity ∨
        ∀ other id, other ≠ key → inserted.cache.index.get? other = some id → inserted.Live now id) ∧
    ∀ depth, (∀ m ∈ moves, m.fails = true) →
      (∀ before, before <+: moves → (limits.moved before).busy.length ≤ depth) →
      (limits.moved moves).cache.size ≤ max limits.capacity depth :=
  ⟨fun _ now missing => Calls.arrive_bound (moved_nested limits moves) missing now, fun _ => moved_size⟩

namespace Sample

-- A group is computed while the forecasts of its members fail, one after the other, in a cache for one key.
def members : List CacheMove :=
  [.call { sharedKey with zone := "CISO" } 0 0, .call { sharedKey with zone := "PGE" } 1 1, .finish 1 2 failing,
    .call { sharedKey with zone := "SDGE" } 3 3, .finish 2 4 failing]

def narrow : CacheLimits := { capacity := 1 }

theorem members_drop_each_other :
    (narrow.moved members).cache.index.get? sharedKey = none ∧
    ((narrow.moved members).arrive 5 sharedKey).1.cache.size = 2 ∧
    (∀ other id, other ≠ sharedKey →
      ((narrow.moved members).arrive 5 sharedKey).1.cache.index.get? other = some id →
      ((narrow.moved members).arrive 5 sharedKey).1.Live 5 id) ∧
    (narrow.moved members).cache.size ≤ 2 := by
  have missing : (narrow.moved members).cache.index.get? sharedKey = none := by decide +kernel
  have two : ((narrow.moved members).arrive 5 sharedKey).1.cache.size = 2 := by decide +kernel
  have shallow : ∀ count < 6, (narrow.moved (members.take count)).busy.length ≤ 2 := by decide +kernel
  obtain ⟨live, within⟩ := capacity_exceeded_by_live narrow members
  refine ⟨missing, two, (live sharedKey 5 missing).resolve_left (by rw [two]; decide), ?_⟩
  refine within 2 (by decide) fun before earlier => ?_
  rw [List.prefix_iff_eq_take.mp earlier]
  exact shallow before.length (Nat.lt_succ_of_le earlier.length_le)

end Sample

end GridLoad
