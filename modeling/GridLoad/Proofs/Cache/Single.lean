import GridLoad.Proofs.Cache.Standing
import GridLoad.Sample

/-!
As long as no slot is dropped and nothing expires, each key is computed by one call at a time, and by no other
once it has a value: the others share it.
-/

set_option autoImplicit false

namespace GridLoad

open GridLoad.Time (Instant)

namespace Calls

variable {s s' : Calls} {now : Instant} {call other : Caller} {id : SlotId} {key : Key} {p : Prediction}
  {log : List CallEvent}

def Awaiting (s : Calls) (key : Key) (call : Caller) : Prop := ∃ id, s.cache.key? id = some key ∧ s.Awaits call id

def Computing (s : Calls) (key : Key) (call : Caller) : Prop := ∃ id, s.cache.key? id = some key ∧ s.Computes call id

section Enters

-- What one call does when it enters its slot, or tries to.

theorem enter_apart (apart : ∀ id, ¬ s.Awaits call id) : s.enter now call = s := by
  unfold enter
  split
  · exact absurd ‹_› (apart _)
  · rfl

theorem awaits_or_apart (s : Calls) (now : Instant) (call : Caller) :
    (∃ id, s.Awaits call id) ∨ s.enter now call = s := by
  by_cases awaiting : ∃ id, s.Awaits call id
  · exact .inl awaiting
  · exact .inr (enter_apart fun id there => awaiting ⟨id, there⟩)

theorem enter_phase_other (different : other ≠ call) : (s.enter now call).phases[other]? = s.phases[other]? := by
  rcases awaits_or_apart s now call with ⟨id, there⟩ | apart
  · cases met : (s.cache.enter now call id).2 with
    | waits => rw [enter_waiting there met]
    | found p =>
        rw [enter_found there met]
        exact set_phase_other different _
    | granted =>
        rw [enter_granted there met]
        exact set_phase_other different _
  · rw [apart]

theorem enter_unexpired (unexpired : s.Unexpired now) (there : s.Awaits call id) :
    (s.enter now call).Unexpired now := by
  obtain ⟨f, less, slots, _⟩ := Cache.enter_changes s.cache now call id
  intro slot member
  rw [enter_cache there, slots] at member
  obtain ⟨at', place⟩ := List.mem_iff_getElem?.mp member
  rw [List.getElem?_modify] at place
  obtain ⟨old, before, rfl⟩ := Option.map_eq_some_iff.mp place
  have served := unexpired old (List.mem_of_getElem? before)
  by_cases same : id = at'
  · rw [if_pos same]
    rcases (less old).2 with unchanged | empty
    · rwa [unchanged]
    · exact .inl empty
  · rw [if_neg same]
    exact served

-- A call that has no slot to enter stays where it is.
theorem enter_run (sound : s.Sound) (unexpired : s.Unexpired now) (call : Caller) :
    (s.enter now call).Unexpired now ∧ ∃ log, CalmRun s log (s.enter now call) := by
  rcases awaits_or_apart s now call with ⟨id, there⟩ | apart
  · obtain ⟨key, known⟩ := sound.known call id there
    refine ⟨enter_unexpired unexpired there, _, .more .rest (.enters there known) ⟨unexpired, ?_⟩⟩
    rw [enter_cache there, Cache.enter_parts.1]
    exact fun _ member => member
  · rw [apart]
    exact ⟨unexpired, [], .rest⟩

theorem settled_run (sound : s.Sound) (run : CalmRun s log s') (settled : s.standing key = .settled p) :
    s'.standing key = .settled p := by
  have path := run_path sound run key
  rw [settled] at path
  exact (Standing.settled_stays path).1

end Enters

section Settling

-- A key that is settled, whose calls enter one after the other.

def enterAll (now : Instant) (calls : List Caller) (s : Calls) : Calls :=
  calls.foldl (fun s call => s.enter now call) s

structure Serves (now : Instant) (id : SlotId) (key : Key) (p : Prediction) (s : Calls) : Prop where
  sound : s.Sound
  unexpired : s.Unexpired now
  known : s.cache.key? id = some key
  settled : s.standing key = .settled p

theorem serves_enter (serves : s.Serves now id key p) (call : Caller) : (s.enter now call).Serves now id key p := by
  obtain ⟨unexpired, log, run⟩ := enter_run serves.sound serves.unexpired call
  have sound := run_sound serves.sound run
  refine ⟨sound, unexpired, ?_, settled_run serves.sound run serves.settled⟩
  rcases awaits_or_apart s now call with ⟨at', there⟩ | apart
  · rw [enter_cache there]
    exact Cache.enter_keys id key serves.known
  · rw [apart]
    exact serves.known

-- The slot of a settled key has its value, and nobody computes there.
theorem serves_slot (serves : s.Serves now id key p) : ∃ slot, s.cache.slots[id]? = some slot ∧
    slot.content.value? now = some p ∧ ∀ c, slot.lock ≠ .held c := by
  obtain ⟨slot, there, same⟩ := Option.map_eq_some_iff.mp serves.known
  have stands : slot.standing = .settled p := by
    rw [← standing_at serves.sound there, same, serves.settled]
  have unheld : ∀ c, slot.lock ≠ .held c := by
    intro c held
    cases (Slot.standing_held held).symm.trans stands
  refine ⟨slot, there, ?_, unheld⟩
  rw [Slot.standing_unheld unheld] at stands
  have served := serves.unexpired slot (List.mem_of_getElem? there)
  cases content : slot.content with
  | empty => simp [content, Content.standing] at stands
  | ready q expires =>
      simp only [content, Content.standing, Standing.settled.injEq] at stands
      subst stands
      simp only [content, Content.value?] at served ⊢
      split
      · rfl
      · simp_all

-- A call of the key has what it came for, or still wants it.
def Due (id : SlotId) (p : Prediction) (s : Calls) (call : Caller) : Prop :=
  s.Awaits call id ∨ s.phases[call]? = some (.ended (.ok ⟨p, true⟩))

theorem served_at_turn {slot : Slot} (serves : s.Serves now id key p) (awaits : s.Awaits call id)
    (there : s.cache.slots[id]? = some slot) (turn : slot.Admits call) :
    (s.enter now call).phases[call]? = some (.ended (.ok ⟨p, true⟩)) := by
  obtain ⟨same, there', served, _⟩ := serves_slot serves
  cases Option.some.inj (there.symm.trans there')
  have met : (s.cache.enter now call id).2 = .found p := by
    rw [Cache.enter_admitted there turn, Cache.look, served]
  rw [enter_found awaits met]
  exact set_phase_self awaits _

theorem kept_out {slot : Slot} (awaits : s.Awaits call id) (there : s.cache.slots[id]? = some slot)
    (out : ¬ slot.Admits call) : (s.enter now call).phases = s.phases ∧
      ∃ slot', (s.enter now call).cache.slots[id]? = some slot' ∧ slot'.lock = slot.lock := by
  have met : (s.cache.enter now call id).2 = .waits := Cache.enter_kept_out there out
  rw [enter_waiting awaits met]
  refine ⟨rfl, ?_⟩
  rcases Cache.waits_at met with same | ⟨_, _, _, _, changed⟩
  · exact ⟨slot, by rw [same]; exact there, rfl⟩
  · exact ⟨{ slot with waiting := slot.waiting ++ [call] }, by simp [changed, Cache.change, there], rfl⟩

theorem ended_enter {result : Except Failure Cached} (ended : s.phases[call]? = some (.ended result)) (other : Caller) :
    (s.enter now other).phases[call]? = some (.ended result) := by
  by_cases self : call = other
  · subst self
    have apart : ∀ at', ¬ s.Awaits call at' := by
      intro at' awaits
      cases awaits.symm.trans ended
    rwa [enter_apart apart]
  · rwa [enter_phase_other self]

theorem awaits_before (awaits : (s.enter now other).Awaits call id) : s.Awaits call id := by
  by_cases self : call = other
  · subst self
    rcases awaits_or_apart s now call with ⟨at', there⟩ | apart
    · cases met : (s.cache.enter now call at').2 with
      | waits => rwa [enter_waiting there met] at awaits
      | found p =>
          rw [enter_found there met] at awaits
          cases (set_phase_self there _).symm.trans awaits
      | granted =>
          rw [enter_granted there met] at awaits
          cases (set_phase_self there _).symm.trans awaits
    · rwa [apart] at awaits
  · rwa [Awaits, enter_phase_other self] at awaits

theorem due_enter (serves : s.Serves now id key p) (due : s.Due id p call) (other : Caller) :
    (s.enter now other).Due id p call := by
  rcases due with awaits | ended
  · by_cases self : call = other
    · subst self
      obtain ⟨slot, there, _⟩ := serves_slot serves
      by_cases turn : slot.Admits call
      · exact .inr (served_at_turn serves awaits there turn)
      · left
        rwa [Awaits, (kept_out awaits there turn).1]
    · left
      rwa [Awaits, enter_phase_other self]
  · exact .inr (ended_enter ended other)

section All

variable {calls : List Caller}

theorem serves_all (serves : s.Serves now id key p) : (s.enterAll now calls).Serves now id key p := by
  induction calls generalizing s with
  | nil => exact serves
  | cons first rest ih => exact ih (serves_enter serves first)

theorem ended_all {result : Except Failure Cached} (ended : s.phases[call]? = some (.ended result)) :
    (s.enterAll now calls).phases[call]? = some (.ended result) := by
  induction calls generalizing s with
  | nil => exact ended
  | cons first rest ih => exact ih (ended_enter ended first)

theorem awaits_before_all (awaits : (s.enterAll now calls).Awaits call id) : s.Awaits call id := by
  induction calls generalizing s with
  | nil => exact awaits
  | cons first rest ih => exact awaits_before (ih awaits)

theorem due_all (serves : s.Serves now id key p) (due : s.Due id p call) : (s.enterAll now calls).Due id p call := by
  induction calls generalizing s with
  | nil => exact due
  | cons first rest ih => exact ih (serves_enter serves first) (due_enter serves due first)

-- Whoever's turn it is does not have to wait for the others to enter.
theorem one_served {slot : Slot} (serves : s.Serves now id key p) (member : call ∈ calls) (awaits : s.Awaits call id)
    (there : s.cache.slots[id]? = some slot) (turn : slot.Admits call) :
    ∃ c ∈ calls, s.Awaits c id ∧ (s.enterAll now calls).phases[c]? = some (.ended (.ok ⟨p, true⟩)) := by
  induction calls generalizing s slot with
  | nil => cases member
  | cons first rest ih =>
      -- The first lets the call go ahead.
      have further : ∀ slot', first ≠ call → (s.enter now first).cache.slots[id]? = some slot' →
          slot'.lock = slot.lock → ∃ c ∈ first :: rest, s.Awaits c id ∧
            (s.enterAll now (first :: rest)).phases[c]? = some (.ended (.ok ⟨p, true⟩)) := by
        intro slot' different there' lock
        have later : call ∈ rest := (List.mem_cons.mp member).resolve_left (Ne.symm different)
        have awaits' : (s.enter now first).Awaits call id := by
          rwa [Awaits, enter_phase_other (Ne.symm different)]
        have turn' : slot'.Admits call := by rwa [Slot.Admits, lock]
        obtain ⟨c, among, before, ended⟩ := ih (serves_enter serves first) later awaits' there' turn'
        exact ⟨c, List.mem_cons_of_mem first among, awaits_before before, ended⟩
      by_cases mine : s.Awaits first id
      · by_cases admitted : slot.Admits first
        · have still : ((s.enter now first).enterAll now rest).phases[first]? = some (.ended (.ok ⟨p, true⟩)) :=
            ended_all (served_at_turn serves mine there admitted)
          exact ⟨first, List.mem_cons_self, mine, still⟩
        · obtain ⟨_, slot', there', lock⟩ : (s.enter now first).phases = s.phases ∧
              ∃ slot', (s.enter now first).cache.slots[id]? = some slot' ∧ slot'.lock = slot.lock :=
            kept_out mine there admitted
          exact further slot' (fun same => admitted (same ▸ turn)) there' lock
      · refine further slot (fun same => mine (same ▸ awaits)) ?_ rfl
        rcases awaits_or_apart s now first with ⟨at', elsewhere⟩ | apart
        · have different : id ≠ at' := fun same => mine (same ▸ elsewhere)
          rw [enter_cache elsewhere, Cache.enter_elsewhere different, there]
        · rw [apart, there]

-- With every round one more of those that line up is served.
theorem all_served (rounds line : List Caller) (serves : s.Serves now id key p)
    (lined : ∀ c, s.Awaits c id → c ∈ line ∧ c ∈ calls) (enough : line.length ≤ rounds.length) (due : s.Due id p call) :
    (rounds.foldl (fun s _ => s.enterAll now calls) s).phases[call]? = some (.ended (.ok ⟨p, true⟩)) := by
  induction rounds generalizing s line with
  | nil =>
      have nobody : line = [] := List.length_eq_zero_iff.mp (Nat.le_zero.mp enough)
      rcases due with awaits | ended
      · have member := (lined call awaits).1
        simp [nobody] at member
      · exact ended
  | cons round rounds ih =>
      by_cases someone : ∃ c, s.Awaits c id
      · obtain ⟨c, awaits⟩ := someone
        obtain ⟨slot, there, _, unheld⟩ := serves_slot serves
        obtain ⟨next, waits, turn⟩ : ∃ next, s.Awaits next id ∧ slot.Admits next := by
          cases lock : slot.lock with
          | free => exact ⟨c, awaits, .inl lock⟩
          | held o => exact absurd lock (unheld o)
          | handed next => exact ⟨next, ((serves.sound.orderly.slots id slot there).handed next lock).1, .inr lock⟩
        obtain ⟨served, _, waited, ended⟩ := one_served serves (lined next waits).2 waits there turn
        refine ih (line.erase served) (serves_all serves) (fun o waiting => ?_) ?_ (due_all serves due)
        · have before := lined o (awaits_before_all waiting)
          refine ⟨(List.mem_erase_of_ne fun same => ?_).mpr before.1, before.2⟩
          subst same
          cases waiting.symm.trans ended
        · rw [List.length_erase_of_mem (lined served waited).1]
          exact Nat.sub_le_of_le_add enough
      · refine ih [] (serves_all serves) (fun o waiting => ?_) (Nat.zero_le _) (due_all serves due)
        exact absurd ⟨o, awaits_before_all waiting⟩ someone

end All

theorem awaits_pending (awaits : s.Awaits call id) : call ∈ s.pending := by
  have within := (List.getElem?_eq_some_iff.mp awaits).1
  exact List.mem_filter.mpr ⟨List.mem_range.mpr within, by rw [show s.phases[call]? = _ from awaits]; rfl⟩

theorem settle_serves (serves : s.Serves now id key p) (awaits : s.Awaits call id) :
    (s.settle now).result? call = some (.ok ⟨p, true⟩) := by
  have ended := all_served s.pending s.pending serves
    (fun c waits => ⟨awaits_pending waits, awaits_pending waits⟩) (Nat.le_refl _) (.inl awaits)
  unfold result? settle
  rw [List.foldl_flatMap]
  unfold enterAll at ended
  rw [ended]

end Settling

section Failing

-- The slot of a key is empty, and whoever's turn it is computes, at whatever instant it enters.
def Open (s : Calls) (key : Key) : Prop :=
  ∃ slot, s.cache.slot? key = some slot ∧ slot.content = .empty ∧
    (∀ call, s.Awaiting key call → ∃ next, s.Awaiting key next ∧ slot.Admits next) ∧
    ∀ next later, s.Awaiting key next → slot.Admits next → (s.enter later next).Computing key next

theorem failed_step {e : CallEvent} (sound : s.Sound) (step : Step now s (some e) s') (calm : Calm now s s')
    (fails : e.deed.fails = true) :
    ∃ slot, s.cache.slot? e.key = some slot ∧ s'.cache.slot? e.key = some slot.release := by
  have sound' := step_sound sound step calm
  have released : ∀ {call : Caller} {id : SlotId} {key : Key}, s.Computes call id → s.cache.key? id = some key →
      s'.cache.slots = s.cache.slots.modify id Slot.release →
      ∃ slot, s.cache.slot? key = some slot ∧ s'.cache.slot? key = some slot.release := by
    intro call id key there known slots
    obtain ⟨slot, held, rfl⟩ := Option.map_eq_some_iff.mp known
    have held' : s'.cache.slots[id]? = some slot.release := by simp [slots, held]
    exact ⟨slot, slot_of_key sound held, slot.release_key ▸ slot_of_key sound' held'⟩
  cases step with
  | arrives key => cases fails
  | @enters call id key there known =>
      cases met : (s.cache.enter now call id).2 <;> simp [met, Entry.deed, CallDeed.fails] at fails
  | finishes there known outcome =>
      cases outcome with
      | ok p => cases fails
      | error failure => exact released there known (by rw [finish_computing there]; rfl)
  | leaves there known => cases fails
  | breaksOff there known => exact released there known (by rw [drop_computing there]; rfl)

theorem slot_stays {slot : Slot} (sound : s.Sound) (run : CalmRun s log s') (found : s.cache.slot? key = some slot) :
    ∃ slot', s'.cache.slot? key = some slot' := by
  obtain ⟨_, id, _, mapped⟩ := slot_found sound found
  have mapped' : s'.cache.index.get? key = some id := by
    induction run with
    | rest => exact mapped
    | more _ _ calm ih => exact calm.found ih
  obtain ⟨slot', there, _⟩ := Option.map_eq_some_iff.mp ((run_sound sound run).stored.indexed key id mapped')
  exact ⟨slot', by simp [Cache.slot?, mapped', there]⟩

theorem vacant_open {slot : Slot} (sound : s.Sound) (vacant : s.standing key = .vacant)
    (found : s.cache.slot? key = some slot) : s.Open key := by
  obtain ⟨same, id, there, mapped⟩ := slot_found sound found
  have stands : slot.standing = .vacant := by rw [← standing_at sound there, same, vacant]
  have unheld : ∀ c, slot.lock ≠ .held c := by
    intro c held
    cases (Slot.standing_held held).symm.trans stands
  have empty : slot.content = .empty := by
    rw [Slot.standing_unheld unheld] at stands
    cases content : slot.content with
    | empty => rfl
    | ready p expires => simp [content, Content.standing] at stands
  have known : s.cache.key? id = some key := sound.stored.indexed key id mapped
  -- Of one key there is one slot.
  have only : ∀ {at' : SlotId}, s.cache.key? at' = some key → at' = id := by
    intro at' also
    exact Option.some.inj ((sound.mapped at' key also).symm.trans mapped)
  refine ⟨slot, found, empty, ?_, ?_⟩
  · rintro call ⟨at', also, awaits⟩
    cases only also
    cases lock : slot.lock with
    | free => exact ⟨call, ⟨id, known, awaits⟩, .inl lock⟩
    | held o => exact absurd lock (unheld o)
    | handed next =>
        exact ⟨next, ⟨id, known, ((sound.orderly.slots id slot there).handed next lock).1⟩, .inr lock⟩
  · rintro next later ⟨at', also, awaits⟩ turn
    cases only also
    have met : (s.cache.enter later next id).2 = .granted := by
      rw [Cache.enter_admitted there turn, Cache.look, empty]
      rfl
    refine ⟨id, ?_, ?_⟩
    · rw [enter_cache awaits]
      exact Cache.enter_keys id key known
    · rw [enter_granted awaits met]
      exact (computes_moved awaits _ id).mpr rfl

end Failing

theorem step_result {e : Option CallEvent} {result : Except Failure Cached} (step : Step now s e s')
    (ended : s'.phases[call]? = some (.ended result)) :
    s.phases[call]? = some (.ended result) ∨ ∃ key, e = some ⟨call, key, .ended result⟩ := by
  -- Another call than the one that goes on is where it was.
  have moved : ∀ {cache : Cache} {mover : Caller} {old phase : CallPhase} {deed : CallDeed} {key : Key},
      s.phases[mover]? = some old →
      ({ s with cache := cache }.setPhase mover phase).phases[call]? = some (.ended result) →
      (phase = .ended result → deed = .ended result) →
      s.phases[call]? = some (.ended result) ∨
        ∃ key', some (CallEvent.mk mover key deed) = some ⟨call, key', .ended result⟩ := by
    intro cache mover old phase deed key there after told
    by_cases self : call = mover
    · subst self
      have here : phase = .ended result :=
        Option.some.inj ((set_phase_self (s := { s with cache := cache }) there phase).symm.trans after)
      exact .inr ⟨key, by rw [told here]⟩
    · exact .inl ((set_phase_other (s := { s with cache := cache }) self phase).symm.trans after)
  cases step with
  | arrives key => exact .inl ((phase_appended (by simp) call).mp ended)
  | @enters mover id key there known =>
      cases met : (s.cache.enter now mover id).2 with
      | waits =>
          rw [enter_waiting there met] at ended
          exact .inl ended
      | found p =>
          rw [enter_found there met] at ended
          exact moved there ended fun same => by cases same; rfl
      | granted =>
          rw [enter_granted there met] at ended
          exact moved there ended fun same => by cases same
  | finishes there known outcome =>
      rw [finish_computing there outcome] at ended
      exact moved there ended fun same => by cases same; rfl
  | leaves there known =>
      rw [drop_awaiting there] at ended
      exact moved there ended fun same => by cases same
  | breaksOff there known =>
      rw [drop_computing there] at ended
      exact moved there ended fun same => by cases same
  | purges => exact .inl ended

theorem run_result {result : Except Failure Cached} (run : CalmRun s log s') (fresh : s.phases = [])
    (ended : s'.phases[call]? = some (.ended result)) : ∃ key, ⟨call, key, .ended result⟩ ∈ log := by
  induction run with
  | rest => simp [fresh] at ended
  | more _ step _ ih =>
      rcases step_result step ended with before | ⟨key, rfl⟩
      · obtain ⟨key, member⟩ := ih before
        exact ⟨key, List.mem_append_left _ member⟩
      · exact ⟨key, by simp⟩

theorem result_ended {result : Except Failure Cached} (given : s.result? call = some result) :
    s.phases[call]? = some (.ended result) := by
  unfold result? at given
  split at given
  · rename_i there
    rw [there, Option.some.inj given]
  · cases given

theorem standing_fresh (limits : CacheLimits) : standing { cache := { limits := limits } } key = .vacant := rfl

/-- One call at a time computes a key; once it has succeeded the others share its value, and where it has failed
or was given up the next one computes. -/
theorem computed_once {limits : CacheLimits} {log : List CallEvent} {s : Calls}
    (run : CalmRun { cache := { limits := limits } } log s) (key : Key) :
    (∀ call call', s.Computing key call → s.Computing key call' → call = call') ∧
    (∀ call result, s.result? call = some result → ∃ key', ⟨call, key', .ended result⟩ ∈ log) ∧
    (∀ call p, ⟨call, key, .ended (.ok ⟨p, false⟩)⟩ ∈ log →
      (∀ log' s', CalmRun s log' s' → ∀ e ∈ log', e.key = key → Standing.Shares p e.deed) ∧
      ∀ now call', s.Unexpired now → s.Awaiting key call' → (s.settle now).result? call' = some (.ok ⟨p, true⟩)) ∧
    (∀ now e s', Step now s (some e) s' → Calm now s s' → e.key = key → e.deed.fails = true →
      (∃ slot, s.cache.slot? key = some slot ∧ s'.cache.slot? key = some slot.release) ∧
      ∀ log' s'', CalmRun s' log' s'' → (∀ e ∈ log', e.key = key → e.deed.starts = false) →
        s''.Open key ∧ ∀ e ∈ log', e.key = key → ∀ result, e.deed ≠ .ended result) ∧
    (log.filter (·.key = key)).countP (·.deed.starts) ≤ 1 + (log.filter (·.key = key)).countP (·.deed.fails) := by
  have sound : s.Sound := run_sound (sound_fresh limits) run
  have path := run_path (sound_fresh limits) run key
  rw [standing_fresh] at path
  have ofKey : ∀ {log : List CallEvent} {e : CallEvent}, e ∈ log → e.key = key → e ∈ log.filter (·.key = key) :=
    fun member same => List.mem_filter.mpr ⟨member, decide_eq_true same⟩
  refine ⟨?_, ?_, ?_, ?_, ?_⟩
  · rintro call call' ⟨id, known, computes⟩ ⟨id', known', computes'⟩
    have one := standing_computes sound computes known
    have other := standing_computes sound computes' known'
    exact Standing.computing.inj (one.symm.trans other)
  · intro call result given
    exact run_result run rfl (result_ended given)
  · intro call p member
    have settled := Standing.settled_by_success path (ofKey member rfl) rfl
    refine ⟨fun log' s' run' e member' same => ?_, ?_⟩
    · have path' := run_path sound run' key
      rw [settled] at path'
      exact (Standing.settled_stays path').2 e (ofKey member' same)
    · rintro now call' unexpired ⟨id, known, awaits⟩
      exact settle_serves ⟨sound, unexpired, known, settled⟩ awaits
  · rintro now e s' step calm rfl fails
    have sound' := step_sound sound step calm
    have released := failed_step sound step calm fails
    refine ⟨released, fun log' s'' run' unstarted => ?_⟩
    have path' := run_path sound' run' e.key
    rw [(Standing.failed_from (step_moved sound step calm).1 fails).2] at path'
    obtain ⟨vacant, quiet⟩ := Standing.vacant_unstarted path' fun e' member =>
      unstarted e' (List.mem_filter.mp member).1 (of_decide_eq_true (List.mem_filter.mp member).2)
    obtain ⟨slot, _, after⟩ := released
    obtain ⟨slot', found⟩ := slot_stays sound' run' after
    exact ⟨vacant_open (run_sound sound' run') vacant found, fun e' member same => quiet e' (ofKey member same)⟩
  · rw [Standing.starts_counted path]
    have bound : (s.standing key).running ≤ 1 := by
      cases s.standing key <;> simp [Standing.running]
    omega

-- A purge finds every slot busy that a call has entered, whether it computes there or stands in line.
theorem purge_spares {slot : Slot} (sound : s.Sound) (mapped : s.cache.index.get? key = some id)
    (there : s.cache.slots[id]? = some slot)
    (entered : s.Computes call id ∨ slot.lock = .handed call ∨ call ∈ slot.waiting) :
    (s.cache.purge now).index.get? key = some id := by
  have busy : slot.lock ≠ .free := by
    intro free
    rcases entered with computes | handed | lined
    · cases free.symm.trans (Cache.held_by sound.orderly there computes)
    · cases free.symm.trans handed
    · simp [(sound.orderly.slots id slot there).idle free] at lined
  exact Table.get_filter_iff.mpr ⟨mapped, by simp [there, Slot.isIdle, busy]⟩

end Calls

namespace Sample

open Calls

def sharedKey : Key := ⟨"SCE", 1, "5d41402abc4b2a76b9719d911017c592", 1⟩

def shared : Prediction := prediction "SCE" 1 19631 196 sharedKey.token ⟨1720620000, 0⟩

-- The first call fails, the second is given up while it computes, and the third is the one that succeeds.
def thirdTry : List CallEvent :=
  [⟨0, sharedKey, .arrived⟩, ⟨0, sharedKey, .started⟩, ⟨1, sharedKey, .arrived⟩, ⟨1, sharedKey, .waited⟩,
    ⟨2, sharedKey, .arrived⟩, ⟨2, sharedKey, .waited⟩, ⟨0, sharedKey, .ended (.error (.noModel "SCE"))⟩,
    ⟨1, sharedKey, .started⟩, ⟨1, sharedKey, .dropped true⟩, ⟨2, sharedKey, .started⟩, ⟨3, sharedKey, .arrived⟩,
    ⟨3, sharedKey, .waited⟩, ⟨2, sharedKey, .ended (.ok ⟨shared, false⟩)⟩]

theorem third_try_runs :
    ∃ s, CalmRun { cache := { limits := {} } } thirdTry s ∧ s.Unexpired 1 ∧ s.Awaiting sharedKey 3 := by
  have run : CalmRun { cache := { limits := {} } } [] { cache := { limits := {} } } := .rest
  have run := run.more (@Calls.Step.arrives 0 _ sharedKey) ⟨by decide +kernel, by decide +kernel⟩
  have run := run.more (@Calls.Step.enters 0 _ 0 0 sharedKey rfl rfl) ⟨by decide +kernel, by decide +kernel⟩
  have run := run.more (@Calls.Step.arrives 0 _ sharedKey) ⟨by decide +kernel, by decide +kernel⟩
  have run := run.more (@Calls.Step.enters 0 _ 1 0 sharedKey rfl rfl) ⟨by decide +kernel, by decide +kernel⟩
  have run := run.more (@Calls.Step.arrives 0 _ sharedKey) ⟨by decide +kernel, by decide +kernel⟩
  have run := run.more (@Calls.Step.enters 0 _ 2 0 sharedKey rfl rfl) ⟨by decide +kernel, by decide +kernel⟩
  have run := run.more (@Calls.Step.finishes 0 _ 0 0 sharedKey (by rfl) (by rfl) (.error (.noModel "SCE")))
    ⟨by decide +kernel, by decide +kernel⟩
  have run := run.more (@Calls.Step.enters 0 _ 1 0 sharedKey rfl rfl) ⟨by decide +kernel, by decide +kernel⟩
  have run := run.more (@Calls.Step.breaksOff 0 _ 1 0 sharedKey rfl rfl) ⟨by decide +kernel, by decide +kernel⟩
  have run := run.more (@Calls.Step.enters 0 _ 2 0 sharedKey rfl rfl) ⟨by decide +kernel, by decide +kernel⟩
  have run := run.more (@Calls.Step.arrives 0 _ sharedKey) ⟨by decide +kernel, by decide +kernel⟩
  have run := run.more (@Calls.Step.enters 0 _ 3 0 sharedKey rfl rfl) ⟨by decide +kernel, by decide +kernel⟩
  have run := run.more (@Calls.Step.finishes 0 _ 2 0 sharedKey (by rfl) (by rfl) (.ok shared))
    ⟨by decide +kernel, by decide +kernel⟩
  exact ⟨_, run, by decide +kernel, 0, rfl, rfl⟩

theorem third_try_shared : ∃ s, CalmRun { cache := { limits := {} } } thirdTry s ∧
    (s.settle 1).result? 3 = some (.ok ⟨shared, true⟩) ∧
    (∀ log' s', CalmRun s log' s' → ∀ e ∈ log', e.key = sharedKey → Standing.Shares shared e.deed) ∧
    thirdTry.countP (·.deed.starts) = 3 ∧
    (thirdTry.filter (·.key = sharedKey)).countP (·.deed.starts) ≤
      1 + (thirdTry.filter (·.key = sharedKey)).countP (·.deed.fails) := by
  obtain ⟨s, run, unexpired, awaiting⟩ := third_try_runs
  obtain ⟨_, _, succeeded, _, counted⟩ := computed_once run sharedKey
  obtain ⟨further, served⟩ := succeeded 2 shared (by simp [thirdTry])
  exact ⟨s, run, served 1 3 unexpired awaiting, further, rfl, counted⟩

-- A slot that its call has not entered yet is idle, so that a purge drops it, and the next call gets another.
def purgedBetween : Calls :=
  let s : Calls := (arrive 0 sharedKey {}).1
  let s : Calls := { s with cache := s.cache.purge 0 }
  ((s.arrive 0 sharedKey).1.enter 0 0).enter 0 1

theorem purged_between_both : purgedBetween.Computing sharedKey 0 ∧ purgedBetween.Computing sharedKey 1 :=
  ⟨⟨0, by decide +kernel, rfl⟩, 1, by decide +kernel, rfl⟩

end Sample

end GridLoad
