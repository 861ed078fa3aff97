import GridLoad.Proofs.Cache.Single
import GridLoad.Proofs.Table

/-!
The cache as it is used by one after the other: nobody is in a slot when the next use begins, so that what a key is
served with depends on the slot that the index leads to and on the time alone.
-/

set_option autoImplicit false

namespace GridLoad

open GridLoad.Time (Instant Timestamp)

inductive CacheUse where
  -- A call gets its slot, looks into it, and ends its computation if it has to compute.
  | call (key : Key) (arrives looks ends : Instant) (outcome : Except Failure Prediction)
  | peek (key : Key) (now : Instant)
  | state (key : Key) (now : Instant)
  | lastComputed (zone : String)
  | purge (now : Instant)
  | retain (generation : Nat)
  | clear

inductive CacheAnswer where
  | called (result : Option (Except Failure Cached)) (computed : Bool)
  | peeked (found : Option Prediction)
  | told (state : SlotState)
  | dated (time : Option Timestamp)
  | done

-- What is read off the clock on the way.
def CacheUse.readings : CacheUse → List Instant
  | .call _ arrives looks ends _ => [arrives, looks, ends]
  | .peek _ now => [now]
  | .state _ now => [now]
  | .purge now => [now]
  | _ => []

namespace Calls

def isComputing : CallPhase → Bool
  | .computing _ => true
  | _ => false

-- A call that has its slot goes on to its end.
def pass (looks ends : Instant) (outcome : Except Failure Prediction) (call : Caller) (s : Calls) :
    Calls × CacheAnswer :=
  let entered := s.enter looks call
  let ended := entered.finish ends call outcome
  (ended, .called (ended.result? call) (entered.phases[call]?.any isComputing))

def use (u : CacheUse) (s : Calls) : Calls × CacheAnswer :=
  match u with
  | .call key arrives looks ends outcome =>
      let (s, call) := s.arrive arrives key
      s.pass looks ends outcome call
  | .peek key now => (s, .peeked (s.cache.peek now key))
  | .state key now => (s, .told (s.cache.state now key))
  | .lastComputed zone => (s, .dated (s.cache.lastComputed? zone))
  | .purge now => ({ s with cache := s.cache.purge now }, .done)
  | .retain generation => ({ s with cache := s.cache.retain generation }, .done)
  | .clear => ({ s with cache := s.cache.clear }, .done)

end Calls

theorem Content.value_later {content : Content} {now later : Instant} (none : content.value? now = .none)
    (order : now ≤ later) : content.value? later = .none := by
  cases content with
  | empty => rfl
  | ready p expires =>
      have past : ¬ now < expires := by
        intro before
        simp [value?, before] at none
      simp [value?, Nat.not_lt.mpr (Nat.le_trans (Nat.not_lt.mp past) order)]

namespace Cache

-- What a key can be served with.
def held (now : Instant) (key : Key) (c : Cache) : Option Prediction :=
  (c.slot? key).bind (·.content.value? now)

-- Nobody computes or waits, and keys lead to their own slots.
structure Quiet (c : Cache) : Prop where
  free : ∀ s ∈ c.slots, s.lock = .free ∧ s.waiting = []
  indexed : ∀ key id, c.index.get? key = some id → c.key? id = some key

-- A cache after some calls, of which so many were hits and so many missed.
structure Sequel (c c' : Cache) (hits misses : Nat) : Prop where
  quiet : c'.Quiet
  limits : c'.limits = c.limits
  hits : c'.hits = c.hits + hits
  misses : c'.misses = c.misses + misses

variable {c : Cache} {now later : Instant} {key other : Key} {id : SlotId} {slot : Slot} {caller : Caller}

theorem sequel_trans {c' c'' : Cache} {hits misses hits' misses' : Nat} (first : c.Sequel c' hits misses)
    (second : c'.Sequel c'' hits' misses') : c.Sequel c'' (hits + hits') (misses + misses') where
  quiet := second.quiet
  limits := second.limits.trans first.limits
  hits := by rw [second.hits, first.hits, Nat.add_assoc]
  misses := by rw [second.misses, first.misses, Nat.add_assoc]

theorem quiet_fresh (limits : CacheLimits) : Quiet { limits := limits } where
  free s member := by simp at member
  indexed _ _ found := nomatch found

theorem quiet_slot (quiet : c.Quiet) (found : c.slot? key = some slot) : slot.lock = .free ∧ slot.waiting = [] := by
  obtain ⟨id, _, there⟩ := Option.bind_eq_some_iff.mp found
  exact quiet.free slot (List.mem_of_getElem? there)

theorem peek_quiet (quiet : c.Quiet) (now : Instant) (key : Key) : c.peek now key = c.held now key := by
  unfold peek held
  cases found : c.slot? key with
  | none => rfl
  | some slot => simp [(quiet_slot quiet found).1]

theorem state_quiet (quiet : c.Quiet) (now : Instant) (key : Key) :
    c.state now key = if (c.held now key).isSome then .ready else .empty := by
  unfold state held
  cases found : c.slot? key with
  | none => rfl
  | some slot => simp [(quiet_slot quiet found).1]

section Dropped

-- Where only the index shrinks, a key is served as before or with nothing.

theorem filter_quiet (quiet : c.Quiet) (keep : Key → SlotId → Bool) :
    Quiet { c with index := c.index.filter keep } :=
  ⟨quiet.free, fun key id found => quiet.indexed key id (Table.get_filter_iff.mp found).1⟩

theorem filter_held (keep : Key → SlotId → Bool) :
    held now key { c with index := c.index.filter keep } =
      if (c.index.get? key).any (keep key) then c.held now key else none := by
  unfold held slot?
  dsimp only
  rw [Table.get_filter]
  cases c.index.get? key with
  | none => rfl
  | some id => by_cases kept : keep key id = true <;> simp [Option.filter, kept]

theorem retain_held (generation : Nat) :
    (c.retain generation).held now key = if key.generation = generation then c.held now key else none := by
  unfold retain
  rw [filter_held]
  by_cases same : key.generation = generation
  · cases found : c.index.get? key with
    | none => simp [held, slot?, found]
    | some id => simp [same]
  · cases found : c.index.get? key with
    | none => simp [same]
    | some id => simp [same]

-- What is dropped had nothing to serve, and time does not bring it back.
theorem purge_held (quiet : c.Quiet) (order : now ≤ later) : (c.purge now).held later key = c.held later key := by
  unfold purge
  rw [filter_held]
  split
  · rfl
  · rename_i dropped
    cases found : c.index.get? key with
    | none => simp [held, slot?, found]
    | some id =>
        obtain ⟨slot, there, _⟩ := Option.map_eq_some_iff.mp (quiet.indexed key id found)
        have idle : slot.isIdle now = true := by simpa [found, there] using dropped
        have nothing : slot.content.value? now = none := by
          simp only [Slot.isIdle, Bool.and_eq_true, Option.isNone_iff_eq_none] at idle
          exact idle.2
        simp [held, slot?, found, there, Content.value_later nothing order]

end Dropped

theorem allot_quiet (quiet : c.Quiet) (key : Key) : (c.allot key).Quiet where
  free s member := by
    rcases List.mem_append.mp member with old | new
    · exact quiet.free s old
    · cases List.mem_singleton.mp new
      exact ⟨rfl, rfl⟩
  indexed other id found := by
    rcases Table.get_insert_some found with ⟨rfl, rfl⟩ | before
    · simp [key?, allot]
    · exact c.allot_keys key id other (quiet.indexed other id before)

theorem allot_held (quiet : c.Quiet) (missing : c.index.get? key = none) :
    (c.allot key).held now other = c.held now other := by
  unfold held slot? allot
  by_cases same : other = key
  · subst same
    simp [missing, Content.value?]
  · rw [Table.get_insert_other c.index key other _ same]
    cases found : c.index.get? other with
    | none => rfl
    | some id =>
        obtain ⟨slot, there, _⟩ := Option.map_eq_some_iff.mp (quiet.indexed other id found)
        have within := (List.getElem?_eq_some_iff.mp there).1
        simp [List.getElem?_append_left within]

-- The slot that a call gets, and what it finds there later.
structure Slotted (now : Instant) (key : Key) (c c' : Cache) (id : SlotId) : Prop where
  sequel : Sequel c c' 0 0
  mapped : c'.index.get? key = some id
  held : ∀ later, now ≤ later → ∀ other, c'.held later other = c.held later other
  dates : c'.lastComputed = c.lastComputed

theorem slot_for_slotted (quiet : c.Quiet) (now : Instant) (key : Key) :
    Slotted now key c (c.slotFor now key).1 (c.slotFor now key).2 := by
  rcases slot_for_cases c now key with ⟨id, mapped, same⟩ | ⟨missing, _, same⟩ | ⟨missing, _, same⟩ <;> rw [same]
  · exact ⟨⟨quiet, rfl, rfl, rfl⟩, mapped, fun _ _ _ => rfl, rfl⟩
  · exact ⟨⟨allot_quiet quiet key, rfl, rfl, rfl⟩, Table.get_insert_self ..,
      fun later _ other => allot_held quiet missing, rfl⟩
  · have quiet' : (c.purge now).Quiet := filter_quiet quiet _
    have missing' : (c.purge now).index.get? key = none := by rw [purge, Table.get_filter, missing]; rfl
    refine ⟨⟨allot_quiet quiet' key, rfl, rfl, rfl⟩, Table.get_insert_self .., fun later order other => ?_, rfl⟩
    rw [allot_held quiet' missing', purge_held quiet order]

section Changed

variable {f : Slot → Slot}

theorem change_quiet (quiet : c.Quiet) (kept : ∀ s, (f s).key = s.key)
    (free : ∀ s, c.slots[id]? = some s → (f s).lock = .free ∧ (f s).waiting = []) : (c.change id f).Quiet where
  free s member := by
    obtain ⟨place, there⟩ := List.getElem?_of_mem member
    simp only [change, List.getElem?_modify] at there
    cases before : c.slots[place]? with
    | none => simp [before] at there
    | some old =>
        by_cases same : id = place
        · subst same
          have changed : f old = s := by simpa [before] using there
          exact changed ▸ free old before
        · have unchanged : old = s := by simpa [before, same] using there
          exact unchanged ▸ quiet.free old (List.mem_of_getElem? before)
  indexed other place found := (change_key id f kept place).trans (quiet.indexed other place found)

theorem change_held (quiet : c.Quiet) (mapped : c.index.get? key = some id) (there : c.slots[id]? = some slot) :
    (c.change id f).held now other = if other = key then (f slot).content.value? now else c.held now other := by
  by_cases same : other = key
  · subst same
    simp [held, slot?, change, mapped, there]
  · rw [if_neg same]
    unfold held slot?
    cases found : c.index.get? other with
    | none => simp [change, found]
    | some place =>
        have apart : id ≠ place := by
          rintro rfl
          exact same (Option.some.inj ((quiet.indexed other id found).symm.trans (quiet.indexed key id mapped)))
        simp [change, found, apart]

end Changed

theorem release_free (slot : Slot) (waiting : slot.waiting = []) :
    slot.release.lock = .free ∧ slot.release.waiting = [] := by
  simp [Slot.release, waiting]

theorem slot_at (quiet : c.Quiet) (mapped : c.index.get? key = some id) :
    ∃ slot, c.slots[id]? = some slot ∧ slot.lock = .free ∧ slot.waiting = [] ∧
      ∀ now, c.held now key = slot.content.value? now := by
  obtain ⟨slot, there, _⟩ := Option.map_eq_some_iff.mp (quiet.indexed key id mapped)
  obtain ⟨free, waiting⟩ := quiet.free slot (List.mem_of_getElem? there)
  exact ⟨slot, there, free, waiting, fun now => by simp [held, slot?, mapped, there]⟩

-- A call that finds a value leaves everything as it was, but that it is counted.
theorem enter_holding (quiet : c.Quiet) (mapped : c.index.get? key = some id) {p : Prediction}
    (holding : c.held now key = some p) (caller : Caller) :
    (c.enter now caller id).2 = .found p ∧ Sequel c (c.enter now caller id).1 1 0 ∧
      (∀ later other, (c.enter now caller id).1.held later other = c.held later other) ∧
      (c.enter now caller id).1.lastComputed = c.lastComputed := by
  obtain ⟨slot, there, free, waiting, value⟩ := slot_at quiet mapped
  rw [value] at holding
  have met : c.enter now caller id = ({ c.change id Slot.release with hits := c.hits + 1 }, .found p) := by
    rw [enter_admitted there (.inl free)]
    simp only [look, holding]
  have changed : (c.change id Slot.release).Quiet := by
    refine change_quiet quiet Slot.release_key fun s same => ?_
    cases there.symm.trans same
    exact release_free slot waiting
  rw [met]
  refine ⟨rfl, ⟨⟨changed.free, changed.indexed⟩, rfl, rfl, rfl⟩, fun later other => ?_, rfl⟩
  refine (change_held quiet mapped there).trans ?_
  split
  · rename_i same
    rw [same, value, Slot.release_content]
  · rfl

-- The whole way of a computation through its slot: it is emptied and locked, and then filled and released.
def filled (expires : Instant) (caller : Caller) (computed : Option Prediction) (s : Slot) : Slot :=
  Slot.release { s with content := computed.elim .empty (.ready · expires), lock := .held caller }

theorem leave_granted (there : c.slots[id]? = some slot) (ended : Instant) (computed : Option Prediction) :
    ({ c.change id (fun s => { s with content := .empty, lock := .held caller }) with
        misses := c.misses + 1 }).leave ended id computed =
      { c.change id (filled (ended + c.limits.lifetime.nanos) caller computed) with
        misses := c.misses + 1
        lastComputed := computed.elim c.lastComputed fun p => c.lastComputed.insert slot.key.zone p.generatedAt } := by
  cases computed with
  | none =>
      simp only [leave, change, List.modify_modify_eq, Option.elim_none]
      rfl
  | some p =>
      have still : (c.slots.modify id fun s => { s with content := .empty, lock := .held caller })[id]? =
          some { slot with content := .empty, lock := .held caller } := by simp [there]
      simp only [leave, change, still, List.modify_modify_eq, Option.elim_some]
      rfl

-- One that finds nothing computes, and leaves what it computed, if that is anything, under its own key.
theorem enter_computing (quiet : c.Quiet) (mapped : c.index.get? key = some id) (nothing : c.held now key = none)
    (caller : Caller) (ended : Instant) (computed : Option Prediction) :
    (c.enter now caller id).2 = .granted ∧ Sequel c ((c.enter now caller id).1.leave ended id computed) 0 1 ∧
      (∀ later other, ((c.enter now caller id).1.leave ended id computed).held later other =
        if other = key then
          computed.bind fun p => (Content.ready p (ended + c.limits.lifetime.nanos)).value? later
        else c.held later other) ∧
      ((c.enter now caller id).1.leave ended id computed).lastComputed =
        computed.elim c.lastComputed fun p => c.lastComputed.insert key.zone p.generatedAt := by
  obtain ⟨slot, there, free, waiting, value⟩ := slot_at quiet mapped
  have own : slot.key = key := by
    have known := quiet.indexed key id mapped
    simpa [key?, there] using known
  rw [value] at nothing
  have met : c.enter now caller id = ({ c.change id (fun s => { s with content := .empty, lock := .held caller }) with
      misses := c.misses + 1 }, .granted) := by
    rw [enter_admitted there (.inl free)]
    simp only [look, nothing]
  have changed : (c.change id (filled (ended + c.limits.lifetime.nanos) caller computed)).Quiet := by
    refine change_quiet quiet (fun s => Slot.release_key _) fun s same => ?_
    cases there.symm.trans same
    exact release_free _ waiting
  rw [met]
  simp only [leave_granted there, own]
  refine ⟨trivial, ⟨⟨changed.free, changed.indexed⟩, rfl, rfl, rfl⟩, fun later other => ?_, trivial⟩
  refine (change_held quiet mapped there).trans ?_
  simp only [filled, Slot.release_content]
  cases computed <;> rfl

end Cache

namespace Calls

variable {s : Calls} {key : Key} {arrives looks : Instant} (ends : Instant) (outcome : Except Failure Prediction)

theorem arrive_awaits (s : Calls) (now : Instant) (key : Key) :
    (s.arrive now key).1.Awaits (s.arrive now key).2 (s.cache.slotFor now key).2 := by
  simp [arrive, Awaits]

theorem finish_ended {call : Caller} {result : Except Failure Cached} (ended : s.phases[call]? = some (.ended result))
    (now : Instant) (outcome : Except Failure Prediction) : s.finish now call outcome = s := by
  simp [finish, ended]

theorem result_of_ended {call : Caller} {result : Except Failure Cached}
    (ended : s.phases[call]? = some (.ended result)) : s.result? call = some result := by
  simp [result?, ended]

theorem pass_holding {call : Caller} {id : SlotId} (quiet : s.cache.Quiet) (awaits : s.Awaits call id)
    (mapped : s.cache.index.get? key = some id) {p : Prediction} (holding : s.cache.held looks key = some p) :
    (s.pass looks ends outcome call).2 = .called (some (.ok ⟨p, true⟩)) false ∧
      (s.pass looks ends outcome call).1.cache = (s.cache.enter looks call id).1 := by
  have entered := enter_found awaits (Cache.enter_holding quiet mapped holding call).1
  have ended : (s.enter looks call).phases[call]? = some (.ended (.ok ⟨p, true⟩)) := by
    rw [entered]
    exact set_phase_self awaits _
  unfold pass
  simp only [finish_ended ended, result_of_ended ended, ended]
  exact ⟨rfl, by rw [entered]; rfl⟩

theorem pass_computing {call : Caller} {id : SlotId} (quiet : s.cache.Quiet) (awaits : s.Awaits call id)
    (mapped : s.cache.index.get? key = some id) (nothing : s.cache.held looks key = none) :
    (s.pass looks ends outcome call).2 = .called (some (outcome.map fun p => ⟨p, false⟩)) true ∧
      (s.pass looks ends outcome call).1.cache = (s.cache.enter looks call id).1.leave ends id outcome.toOption := by
  have entered := enter_granted awaits (Cache.enter_computing quiet mapped nothing call ends none).1
  have computes : (s.enter looks call).Computes call id := by
    rw [entered]
    exact set_phase_self awaits _
  have finished : (s.enter looks call).finish ends call outcome = _ := finish_computing computes outcome
  have ended : ((s.enter looks call).finish ends call outcome).phases[call]? =
      some (.ended (outcome.map fun p => ⟨p, false⟩)) := by
    rw [finished]
    exact set_phase_self computes _
  unfold pass
  simp only [result_of_ended ended, show (s.enter looks call).phases[call]? = _ from computes]
  refine ⟨rfl, ?_⟩
  rw [finished, entered]
  rfl

theorem use_holding (quiet : s.cache.Quiet) (order : arrives ≤ looks) {p : Prediction}
    (holding : s.cache.held looks key = some p) :
    (s.use (.call key arrives looks ends outcome)).2 = .called (some (.ok ⟨p, true⟩)) false ∧
      s.cache.Sequel (s.use (.call key arrives looks ends outcome)).1.cache 1 0 ∧
      (∀ later, arrives ≤ later → ∀ other,
        (s.use (.call key arrives looks ends outcome)).1.cache.held later other = s.cache.held later other) ∧
      (s.use (.call key arrives looks ends outcome)).1.cache.lastComputed = s.cache.lastComputed := by
  have slotted := Cache.slot_for_slotted quiet arrives key
  have holding' := (slotted.held looks order key).trans holding
  obtain ⟨_, sequel, held, dates⟩ := Cache.enter_holding slotted.sequel.quiet slotted.mapped holding' s.phases.length
  obtain ⟨answer, cache⟩ := pass_holding ends outcome (s := (s.arrive arrives key).1)
    slotted.sequel.quiet (arrive_awaits s arrives key) slotted.mapped holding'
  refine ⟨answer, ?_, fun later after other => ?_, ?_⟩
  · exact cache ▸ Cache.sequel_trans slotted.sequel sequel
  · exact (congrArg (Cache.held later other) cache).trans ((held later other).trans (slotted.held later after other))
  · exact (congrArg Cache.lastComputed cache).trans (dates.trans slotted.dates)

theorem use_computing (quiet : s.cache.Quiet) (order : arrives ≤ looks) (nothing : s.cache.held looks key = none) :
    (s.use (.call key arrives looks ends outcome)).2 = .called (some (outcome.map fun p => ⟨p, false⟩)) true ∧
      s.cache.Sequel (s.use (.call key arrives looks ends outcome)).1.cache 0 1 ∧
      (∀ later, arrives ≤ later → ∀ other, (s.use (.call key arrives looks ends outcome)).1.cache.held later other =
        if other = key then
          outcome.toOption.bind fun p => (Content.ready p (ends + s.cache.limits.lifetime.nanos)).value? later
        else s.cache.held later other) ∧
      (s.use (.call key arrives looks ends outcome)).1.cache.lastComputed =
        outcome.toOption.elim s.cache.lastComputed fun p => s.cache.lastComputed.insert key.zone p.generatedAt := by
  have slotted := Cache.slot_for_slotted quiet arrives key
  have nothing' := (slotted.held looks order key).trans nothing
  obtain ⟨_, sequel, held, dates⟩ := Cache.enter_computing slotted.sequel.quiet slotted.mapped nothing'
    s.phases.length ends outcome.toOption
  obtain ⟨answer, cache⟩ := pass_computing ends outcome (s := (s.arrive arrives key).1)
    slotted.sequel.quiet (arrive_awaits s arrives key) slotted.mapped nothing'
  refine ⟨answer, ?_, fun later after other => ?_, ?_⟩
  · exact cache ▸ Cache.sequel_trans slotted.sequel sequel
  · refine (congrArg (Cache.held later other) cache).trans ((held later other).trans ?_)
    rw [slotted.sequel.limits, slotted.held later after]
  · refine (congrArg Cache.lastComputed cache).trans (dates.trans ?_)
    rw [slotted.dates]

theorem drop_ended {call : Caller} {result : Except Failure Cached} (ended : s.phases[call]? = some (.ended result))
    (now : Instant) : s.drop now call = s := by
  simp [drop, ended]

-- A call that is brought to its end at once is a use whose readings are one instant.
theorem call_now_uses (quiet : s.cache.Quiet) (now : Instant) :
    (s.use (.call key now now now outcome)).1 = (s.callNow now key outcome).1 ∧
      ∃ computed, (s.use (.call key now now now outcome)).2 = .called (s.callNow now key outcome).2 computed := by
  refine ⟨?_, _, rfl⟩
  have answered : ∃ result computed, (s.use (.call key now now now outcome)).2 = .called (some result) computed := by
    cases holding : s.cache.held now key with
    | none => exact ⟨_, _, (use_computing now outcome quiet (Nat.le_refl now) holding).1⟩
    | some p => exact ⟨_, _, (use_holding now outcome quiet (Nat.le_refl now) holding).1⟩
  obtain ⟨result, computed, answer⟩ := answered
  have given : (s.use (.call key now now now outcome)).1.result? (s.arrive now key).2 = some result := by
    simp only [use, pass, CacheAnswer.called.injEq] at answer
    exact answer.1
  exact (drop_ended (result_ended given) now).symm

end Calls

end GridLoad
