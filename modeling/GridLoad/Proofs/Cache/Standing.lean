import GridLoad.Proofs.Cache.Interleaving

/-!
What one key goes through: it is vacant, a call computes it, or it is settled with a value. Every step of a call
is a move of its key, and leaves the other keys where they are.
-/

set_option autoImplicit false

namespace GridLoad

open GridLoad.Time (Instant)

inductive Standing where
  | vacant
  | computing (call : Caller)
  | settled (prediction : Prediction)

def CallDeed.starts : CallDeed → Bool
  | .started => true
  | _ => false

-- A computation ends without a value.
def CallDeed.fails : CallDeed → Bool
  | .ended (.error _) => true
  | .dropped true => true
  | _ => false

namespace Standing

inductive Moves (call : Caller) : CallDeed → Standing → Standing → Prop
  | arrives (st : Standing) : Moves call .arrived st st
  | waits (st : Standing) : Moves call .waited st st
  | leaves (st : Standing) : Moves call (.dropped false) st st
  | starts : Moves call .started .vacant (.computing call)
  | shares (p : Prediction) : Moves call (.ended (.ok ⟨p, true⟩)) (.settled p) (.settled p)
  | settles (p : Prediction) : Moves call (.ended (.ok ⟨p, false⟩)) (.computing call) (.settled p)
  | fails (failure : Failure) : Moves call (.ended (.error failure)) (.computing call) .vacant
  | breaksOff : Moves call (.dropped true) (.computing call) .vacant

inductive Path (st : Standing) : List CallEvent → Standing → Prop
  | rest : Path st [] st
  | more {log : List CallEvent} {e : CallEvent} {st' st'' : Standing} (before : Path st log st')
      (move : Moves e.call e.deed st' st'') : Path st (log ++ [e]) st''

variable {log : List CallEvent} {st st' : Standing} {p : Prediction}

-- What a call of a key can do once the key has its value.
def Shares (p : Prediction) (deed : CallDeed) : Prop :=
  deed = .arrived ∨ deed = .waited ∨ deed = .dropped false ∨ deed = .ended (.ok ⟨p, true⟩)

theorem settled_stays (path : Path (.settled p) log st) : st = .settled p ∧ ∀ e ∈ log, Shares p e.deed := by
  induction path with
  | rest => simp
  | @more log e st' st'' before move ih =>
      obtain ⟨rfl, earlier⟩ := ih
      generalize deed : e.deed = d at move
      have last : st'' = .settled p ∧ Shares p d := by
        unfold Shares
        cases move <;> simp
      refine ⟨last.1, ?_⟩
      intro e' member
      rcases List.mem_append.mp member with old | new
      · exact earlier e' old
      · cases List.mem_singleton.mp new
        exact deed ▸ last.2

theorem settled_by_success (path : Path st log st') {e : CallEvent} (member : e ∈ log)
    (success : e.deed = .ended (.ok ⟨p, false⟩)) : st' = .settled p := by
  induction path with
  | rest => cases member
  | @more log e' st' st'' before move ih =>
      rcases List.mem_append.mp member with old | new
      · rw [ih old] at move
        have further : Path (.settled p) ([] ++ [e']) st'' := .more .rest move
        exact (settled_stays further).1
      · cases List.mem_singleton.mp new
        rw [success] at move
        cases move
        rfl

theorem vacant_unstarted (path : Path .vacant log st) (unstarted : ∀ e ∈ log, e.deed.starts = false) :
    st = .vacant ∧ ∀ e ∈ log, ∀ result, e.deed ≠ .ended result := by
  induction path with
  | rest => simp
  | @more log e st' st'' before move ih =>
      obtain ⟨rfl, earlier⟩ := ih fun e' member => unstarted e' (List.mem_append_left _ member)
      have idle := unstarted e (by simp)
      generalize deed : e.deed = d at move idle
      have last : st'' = .vacant ∧ ∀ result, d ≠ .ended result := by
        cases move <;> simp_all [CallDeed.starts]
      refine ⟨last.1, ?_⟩
      intro e' member
      rcases List.mem_append.mp member with old | new
      · exact earlier e' old
      · cases List.mem_singleton.mp new
        exact deed ▸ last.2

def running : Standing → Nat
  | .vacant => 0
  | _ => 1

-- Every computation but the last has ended without a value.
theorem starts_counted (path : Path .vacant log st) :
    log.countP (·.deed.starts) = log.countP (·.deed.fails) + st.running := by
  induction path with
  | rest => simp [running]
  | @more log e st' st'' before move ih =>
      simp only [List.countP_append, List.countP_singleton]
      generalize e.deed = d at move
      cases move <;> simp_all [CallDeed.starts, CallDeed.fails, running]

theorem failed_from {call : Caller} {d : CallDeed} (move : Moves call d st st') (fails : d.fails = true) :
    st = .computing call ∧ st' = .vacant := by
  cases move <;> simp_all [CallDeed.fails]

end Standing

def Content.standing : Content → Standing
  | .empty => .vacant
  | .ready p _ => .settled p

def Slot.standing (s : Slot) : Standing :=
  match s.lock with
  | .held call => .computing call
  | _ => s.content.standing

namespace Slot

variable {s : Slot} {call : Caller}

theorem standing_held (held : s.lock = .held call) : s.standing = .computing call := by
  simp [standing, held]

theorem standing_unheld (unheld : ∀ c, s.lock ≠ .held c) : s.standing = s.content.standing := by
  unfold standing
  cases lock : s.lock with
  | held c => exact absurd lock (unheld c)
  | free => rfl
  | handed c => rfl

theorem standing_release : s.release.standing = s.content.standing := by
  rw [standing_unheld s.release_not_held, release_content]

end Slot

theorem Cache.slot_for_slots {c : Cache} {now : Instant} {key : Key} :
    (c.slotFor now key).1.slots = c.slots ∨ (c.slotFor now key).1.slots = c.slots ++ [{ key := key }] := by
  rcases slot_for_cases c now key with ⟨_, _, same⟩ | ⟨_, _, same⟩ | ⟨_, _, same⟩ <;> rw [same]
  · exact .inl rfl
  · exact .inr rfl
  · exact .inr rfl

namespace Calls

def standing (s : Calls) (key : Key) : Standing :=
  match s.cache.slot? key with
  | none => .vacant
  | some slot => slot.standing

variable {s s' : Calls} {now : Instant} {call : Caller} {id : SlotId} {key : Key} {slot slot' : Slot}

theorem slot_of_key (sound : s.Sound) (there : s.cache.slots[id]? = some slot) : s.cache.slot? slot.key = some slot := by
  have known : s.cache.key? id = some slot.key := by simp [Cache.key?, there]
  simp [Cache.slot?, sound.mapped id slot.key known, there]

theorem slot_found (sound : s.Sound) (found : s.cache.slot? key = some slot) :
    slot.key = key ∧ ∃ id, s.cache.slots[id]? = some slot ∧ s.cache.index.get? key = some id := by
  obtain ⟨id, mapped, there⟩ := Option.bind_eq_some_iff.mp found
  have known := sound.stored.indexed key id mapped
  simp only [Cache.key?, there, Option.map_some, Option.some_inj] at known
  exact ⟨known, id, there, mapped⟩

theorem standing_at (sound : s.Sound) (there : s.cache.slots[id]? = some slot) :
    s.standing slot.key = slot.standing := by
  simp [standing, slot_of_key sound there]

theorem standing_computes (sound : s.Sound) (there : s.Computes call id) (known : s.cache.key? id = some key) :
    s.standing key = .computing call := by
  obtain ⟨slot, held, lock⟩ := sound.orderly.holders call id there
  have same : slot.key = key := by simpa [Cache.key?, held] using known
  rw [← same, standing_at sound held, Slot.standing_held lock]

-- A key stands as before where its slot does, or where its slot is new.
theorem standing_kept (sound : s.Sound) (sound' : s'.Sound) (keys : Cache.KeysKept s.cache s'.cache)
    (alike : ∀ (id : SlotId) (slot slot' : Slot), s.cache.slots[id]? = some slot → s'.cache.slots[id]? = some slot' →
      slot.key = key → slot'.standing = slot.standing)
    (fresh : ∀ (id : SlotId) (slot' : Slot), s.cache.slots[id]? = none → s'.cache.slots[id]? = some slot' →
      slot'.standing = .vacant) :
    s'.standing key = s.standing key := by
  cases before : s.cache.slot? key with
  | some slot =>
      obtain ⟨same, id, there, _⟩ := slot_found sound before
      obtain ⟨slot', there', same'⟩ := Option.map_eq_some_iff.mp (keys id key (by simp [Cache.key?, there, same]))
      rw [← same', standing_at sound' there', same', standing, before]
      exact alike id slot slot' there there' same
  | none =>
      rw [show s.standing key = .vacant by rw [standing, before]]
      cases after : s'.cache.slot? key with
      | none => rw [standing, after]
      | some slot' =>
          obtain ⟨same', id, there', _⟩ := slot_found sound' after
          rw [standing, after]
          refine fresh id slot' (Option.eq_none_iff_forall_ne_some.mpr fun slot there => ?_) there'
          have kept := keys id slot.key (by simp [Cache.key?, there])
          have same : slot'.key = slot.key := by simpa [Cache.key?, there'] using kept
          have found := slot_of_key sound there
          rw [← same, same', before] at found
          cases found

-- One slot changes, and no key but its own stands otherwise than before.
theorem standing_changed {f : Slot → Slot} (sound : s.Sound) (sound' : s'.Sound)
    (changed : s'.cache.slots = s.cache.slots.modify id f) (keeps : ∀ s, (f s).key = s.key)
    (there : s.cache.slots[id]? = some slot) :
    s.standing slot.key = slot.standing ∧ s'.standing slot.key = (f slot).standing ∧
      ∀ other, other ≠ slot.key → s'.standing other = s.standing other := by
  have there' : s'.cache.slots[id]? = some (f slot) := by simp [changed, there]
  refine ⟨standing_at sound there, keeps slot ▸ standing_at sound' there', ?_⟩
  intro other different
  refine standing_kept sound sound' (fun at' kept known => ?_) (fun at' old new before after same => ?_) ?_
  · have same := Cache.change_key (c := s.cache) id f keeps at'
    simp only [Cache.key?, Cache.change, changed] at known same ⊢
    exact same.trans known
  · have elsewhere : id ≠ at' := by
      intro at_once
      subst at_once
      cases Option.some.inj (there.symm.trans before)
      exact different same.symm
    have kept : old = new := by simpa [changed, elsewhere, before] using after
    rw [kept]
  · intro at' new before after
    rw [changed, List.getElem?_modify, before] at after
    cases after

-- A move of one key, while the others stay.
def Moved (s : Calls) (e : CallEvent) (s' : Calls) : Prop :=
  Standing.Moves e.call e.deed (s.standing e.key) (s'.standing e.key) ∧
    ∀ other, other ≠ e.key → s'.standing other = s.standing other

theorem moved_changed {deed : CallDeed} (f : Slot → Slot) (sound : s.Sound) (sound' : s'.Sound)
    (changed : s'.cache.slots = s.cache.slots.modify id f) (keeps : ∀ s, (f s).key = s.key)
    (there : s.cache.slots[id]? = some slot) (known : s.cache.key? id = some key)
    (move : Standing.Moves call deed slot.standing (f slot).standing) : Moved s ⟨call, key, deed⟩ s' := by
  have same : slot.key = key := by simpa [Cache.key?, there] using known
  obtain ⟨before, after, others⟩ := standing_changed sound sound' changed keeps there
  subst same
  exact ⟨by rw [before, after]; exact move, others⟩

theorem arrive_moved (sound : s.Sound) (sound' : (s.arrive now key).1.Sound) :
    Moved s ⟨(s.arrive now key).2, key, .arrived⟩ (s.arrive now key).1 := by
  have slots : (s.arrive now key).1.cache.slots = s.cache.slots ∨
      (s.arrive now key).1.cache.slots = s.cache.slots ++ [{ key := key }] := Cache.slot_for_slots
  have stands : ∀ other, (s.arrive now key).1.standing other = s.standing other := by
    intro other
    refine standing_kept sound sound' (Cache.slot_for_keys key) ?_ ?_
    · intro id slot slot' there there' _
      rcases slots with same | added
      · rw [same, there] at there'
        rw [Option.some.inj there']
      · rw [added, List.getElem?_append_left (List.getElem?_eq_some_iff.mp there).1, there] at there'
        rw [Option.some.inj there']
    · intro id slot' before there'
      rcases slots with same | added
      · rw [same, before] at there'
        cases there'
      · rw [added, List.getElem?_append_right (List.getElem?_eq_none_iff.mp before)] at there'
        cases List.mem_singleton.mp (List.mem_of_getElem? there')
        rfl
  exact ⟨by rw [stands]; exact .arrives _, fun other _ => stands other⟩

theorem unexpired_ready (unexpired : s.Unexpired now) (there : s.cache.slots[id]? = some slot)
    (nothing : slot.content.value? now = none) : slot.content = .empty := by
  rcases unexpired slot (List.mem_of_getElem? there) with empty | served
  · exact empty
  · simp [nothing] at served

theorem enter_moved (sound : s.Sound) (unexpired : s.Unexpired now) (there : s.Awaits call id)
    (known : s.cache.key? id = some key) :
    Moved s ⟨call, key, (s.cache.enter now call id).2.deed⟩ (s.enter now call) := by
  have sound' : (s.enter now call).Sound := enter_sound sound there
  cases met : (s.cache.enter now call id).2 with
  | waits =>
      have after := enter_waiting there met
      rcases Cache.waits_at met with same | ⟨slot, held, _, _, changed⟩
      · have stands : ∀ other, (s.enter now call).standing other = s.standing other := by
          intro other
          rw [after, same]
        exact ⟨by rw [stands]; exact .waits _, fun other _ => stands other⟩
      · refine moved_changed (fun s => { s with waiting := s.waiting ++ [call] }) sound sound'
          (by rw [after, changed]; rfl) (fun _ => rfl) held known ?_
        exact .waits _
  | found p =>
      obtain ⟨slot, held, turn, served, changed⟩ := Cache.found_at met
      obtain ⟨expires, ready⟩ := Cache.value_ready served
      refine moved_changed Slot.release sound sound' (by rw [enter_found there met, changed]; rfl) Slot.release_key held
        known ?_
      rw [Slot.standing_release, Slot.standing_unheld (Slot.admitted_not_held turn), ready]
      exact .shares p
  | granted =>
      obtain ⟨slot, held, turn, nothing, changed⟩ := Cache.granted_at met
      refine moved_changed (fun s => { s with content := .empty, lock := .held call }) sound sound'
        (by rw [enter_granted there met, changed]; rfl) (fun _ => rfl) held known ?_
      rw [Slot.standing_unheld (Slot.admitted_not_held turn), unexpired_ready unexpired held nothing]
      exact .starts

-- A computation ends: with a value its key is settled, and otherwise vacant again.
theorem left_moved {phase : CallPhase} {deed : CallDeed} {computed : Option Prediction} (sound : s.Sound)
    (there : s.Computes call id) (known : s.cache.key? id = some key)
    (sound' : ({ s with cache := s.cache.leave now id computed }.setPhase call phase).Sound)
    (move : Standing.Moves call deed (.computing call) (computed.elim .vacant .settled)) :
    Moved s ⟨call, key, deed⟩ ({ s with cache := s.cache.leave now id computed }.setPhase call phase) := by
  obtain ⟨slot, held, lock⟩ := sound.orderly.holders call id there
  have empty := ((sound.orderly.slots id slot held).held call lock).2
  cases computed with
  | none =>
      refine moved_changed Slot.release sound sound' rfl Slot.release_key held known ?_
      rw [Slot.standing_release, empty, Slot.standing_held lock]
      exact move
  | some p =>
      have stored : (s.cache.leave now id (some p)).slots = s.cache.slots.modify id fun s' =>
          { s' with content := .ready p (now + s.cache.limits.lifetime.nanos) }.release := by
        simp only [Cache.leave, held]
        rfl
      refine moved_changed _ sound sound' stored (fun _ => by simp) held known ?_
      rw [Slot.standing_release, Slot.standing_held lock]
      exact move

theorem leaves_moved (sound : s.Sound) (there : s.Awaits call id) (known : s.cache.key? id = some key) :
    Moved s ⟨call, key, .dropped false⟩ (s.drop now call) := by
  have sound' : (s.drop now call).Sound := leaves_sound sound there
  rw [drop_awaiting there] at sound' ⊢
  obtain ⟨slot, held, _⟩ := Option.map_eq_some_iff.mp known
  refine moved_changed _ sound sound' rfl (fun s => by split <;> simp) held known ?_
  have same : (if slot.lock = .handed call then slot.release
      else { slot with waiting := slot.waiting.filter (· ≠ call) }).standing = slot.standing := by
    by_cases handed : slot.lock = .handed call
    · rw [if_pos handed, Slot.standing_release, Slot.standing_unheld (by simp [handed])]
    · rw [if_neg handed]
      rfl
  rw [same]
  exact .leaves _

theorem step_moved {e : CallEvent} (sound : s.Sound) (step : Step now s (some e) s') (calm : Calm now s s') :
    Moved s e s' := by
  have sound' := step_sound sound step calm
  cases step with
  | arrives key => exact arrive_moved sound sound'
  | enters there known => exact enter_moved sound calm.unexpired there known
  | finishes there known outcome =>
      rw [finish_computing there outcome] at sound' ⊢
      refine left_moved sound there known sound' ?_
      cases outcome with
      | error failure => exact .fails failure
      | ok p => exact .settles p
  | leaves there known => exact leaves_moved sound there known
  | breaksOff there known =>
      rw [drop_computing there] at sound' ⊢
      exact left_moved sound there known sound' .breaksOff

theorem purge_standing (sound : s.Sound) (calm : Calm now s { s with cache := s.cache.purge now }) (key : Key) :
    standing { s with cache := s.cache.purge now } key = s.standing key := by
  have sound' := step_sound sound .purges calm
  refine standing_kept sound sound' (fun _ _ known => known) (fun id slot slot' there there' _ => ?_) ?_
  · rw [Option.some.inj (there.symm.trans there')]
  · intro id slot' before there'
    cases before.symm.trans there'

-- The log of one key is a way through what the key can go through.
theorem run_path {log : List CallEvent} (sound : s.Sound) (run : CalmRun s log s') (key : Key) :
    Standing.Path (s.standing key) (log.filter (·.key = key)) (s'.standing key) := by
  induction run with
  | rest => exact .rest
  | @more s' s'' now log e before step calm ih =>
      have sound' := run_sound sound before
      cases e with
      | none =>
          cases step
          rw [purge_standing sound' calm, Option.toList_none, List.append_nil]
          exact ih
      | some e =>
          obtain ⟨move, others⟩ := step_moved sound' step calm
          rw [Option.toList_some, List.filter_append]
          by_cases same : e.key = key
          · subst same
            simpa using Standing.Path.more ih move
          · rw [others key (Ne.symm same)]
            simpa [same] using ih

end Calls

end GridLoad
