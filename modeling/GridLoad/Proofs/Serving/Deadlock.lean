import Mathlib.Logic.Relation
import GridLoad.Proofs.Serving.Schedule
import GridLoad.Proofs.Serving.Waiting

/-!
Requests never wait for each other in a circle: whoever waits with a lock in hand waits for a real zone, and whoever
has the lock of a real zone waits for nobody.
-/

set_option autoImplicit false

namespace GridLoad

open Relation

namespace World

def Live (w : World) (i : Nat) (f : Flight) : Prop := w.flights[i]? = some f ∧ f.dropped = false

-- A request puts its next question, and is answered at once.
def Ready (w : World) (i : Nat) : Prop :=
  ∃ f, w.Live i f ∧
    ((∃ a next, f.rest = .ask (.act a) next) ∨
      ∃ wait next, f.rest = .ask (.wait wait) next ∧ (w.engine.attempt f.caller wait).2.isSome = true)

def WaitsAt (w : World) (i : Nat) (id : SlotId) : Prop :=
  ∃ f, w.Live i f ∧ f.Seeks id ∧ (w.engine.attempt f.caller (.enter id)).2 = none

-- A lock is in the hands of one who computes, or of one who is next to look into the slot.
def HasLock (w : World) (i : Nat) (id : SlotId) : Prop :=
  ∃ f slot, w.Live i f ∧ w.engine.cache.slots[id]? = some slot ∧
    (slot.lock = .held f.caller ∨ slot.lock = .handed f.caller)

def WaitsFor (w : World) (i j : Nat) : Prop := ∃ id, w.WaitsAt i id ∧ w.HasLock j id

variable {v : Service} {w : World} {i j : Nat} {f : Flight} {id id' : SlotId} {slot : Slot}

theorem live_same {g : Flight} (live : w.Live i f) (other : w.Live i g) : g = f :=
  Option.some.inj (other.1.symm.trans live.1)

theorem ready_steps (ready : w.Ready i) : ∃ w' f f' x, Step v w w' ∧ w.Live i f ∧ w'.Live i f' ∧
    f'.transcript = f.transcript ++ [x] := by
  obtain ⟨f, ⟨there, live⟩, ⟨a, next, turn⟩ | ⟨wait, next, turn, given⟩⟩ := ready
  · exact ⟨_, f, _, _, .acts there live turn, ⟨there, live⟩, ⟨set_there there, live⟩, rfl⟩
  · obtain ⟨answer, given⟩ := Option.isSome_iff_exists.mp given
    exact ⟨_, f, _, _, .answered there live turn given, ⟨there, live⟩, ⟨set_there there, live⟩, rfl⟩

theorem ready_not_waiting (ready : w.Ready i) : ¬ w.WaitsAt i id := by
  rintro ⟨g, other, ⟨next', seeks⟩, pending⟩
  obtain ⟨f, live, going⟩ := ready
  cases live_same live other
  rcases going with ⟨a, next, turn⟩ | ⟨wait, next, turn, given⟩
  · cases turn.symm.trans seeks
  · cases turn.symm.trans seeks
    simp [pending] at given

theorem waits_at_one (waits : w.WaitsAt i id) (also : w.WaitsAt i id') : id = id' := by
  obtain ⟨f, live, ⟨next, seeks⟩, _⟩ := waits
  obtain ⟨g, other, ⟨next', seeks'⟩, _⟩ := also
  cases live_same live other
  cases seeks.symm.trans seeks'
  rfl

-- Whoever may look into a slot is let in.
theorem admitted_attempt {c : Caller} (there : w.engine.cache.slots[id]? = some slot) (turn : slot.Admits c) :
    (w.engine.attempt c (.enter id)).2.isSome = true := by
  simp only [Engine.attempt, Cache.enter_admitted there turn, Cache.look]
  cases slot.content.value? w.engine.now <;> rfl

section

variable (locked : w.Locked)

include locked

theorem lock_owned {c : Caller} (there : w.engine.cache.slots[id]? = some slot)
    (taken : slot.lock = .held c ∨ slot.lock = .handed c) : ∃ i, w.HasLock i id := by
  have order := locked.orderly.slots id slot there
  rcases taken with held | handed
  · obtain ⟨⟨i, f, place, rfl, live, _⟩, _⟩ := order.held c held
    exact ⟨i, f, slot, ⟨place, live⟩, there, .inl held⟩
  · obtain ⟨⟨i, f, place, rfl, live, _⟩, _⟩ := order.handed c handed
    exact ⟨i, f, slot, ⟨place, live⟩, there, .inr handed⟩

variable (flat : v.setup.catalog.Flat) (sound : w.Sound v)

include flat sound

omit locked in
theorem orders {q : Question} {next : q.Answer → Serve f.ask.Answer} (live : w.Live i f) (turn : f.rest = .ask q next) :
    w.ledger.Orders v.setup f.transcript q :=
  flight_ordered flat (sound.flights f (flight_mem live.1)) turn

-- Whoever has a lock goes on, unless it is that of a virtual zone and a constituent is computed elsewhere.
theorem holder_goes (has : w.HasLock i id) :
    w.Ready i ∨ w.ledger.OfGroup v.setup id ∧ ∃ id', w.WaitsAt i id' ∧ w.ledger.OfZone v.setup id' := by
  obtain ⟨f, slot, live, there, computes | handed⟩ := has
  · have computing := ((locked.orderly.slots id slot there).held f.caller computes).1
    have taken := ((holds_iff locked.named live.1).mp computing).2
    cases turn : f.rest with
    | done value =>
        rw [flight_done flat (sound.flights f (flight_mem live.1)) turn] at taken
        cases taken
    | ask q next =>
        have order := orders flat sound live turn
        cases q with
        | act a => exact .inl ⟨f, live, .inl ⟨a, next, turn⟩⟩
        | wait wait =>
            cases wait with
            | enter id' =>
                obtain ⟨_, none | ⟨top, one, group, zone⟩⟩ := order
                · simp [none] at taken
                · have same : id = top := by simpa [one] using taken
                  subst same
                  cases given : (w.engine.attempt f.caller (.enter id')).2 with
                  | some answer => exact .inl ⟨f, live, .inr ⟨_, next, turn, by simp [given]⟩⟩
                  | none => exact .inr ⟨group, id', ⟨f, live, ⟨next, turn⟩, given⟩, zone⟩
            | refreshed id' patience => simp [show held f.transcript = [] from order] at taken
            | reloadTurn => simp [show held f.transcript = [] from order] at taken
            | models root generation => simp [show held f.transcript = [] from order] at taken
  · have wants := ((locked.orderly.slots id slot there).handed f.caller handed).1
    obtain ⟨_, next, turn⟩ := (wants_iff locked.named live.1).mp wants
    exact .inl ⟨f, live, .inr ⟨_, next, turn, admitted_attempt there (.inr handed)⟩⟩

theorem zone_holder_goes (zone : w.ledger.OfZone v.setup id) (has : w.HasLock i id) : w.Ready i := by
  rcases holder_goes locked flat sound has with ready | ⟨group, _⟩
  · exact ready
  · exact absurd rfl (Ledger.zone_not_group zone group)

theorem waits_for_someone (waits : w.WaitsAt i id) : ∃ j, w.HasLock j id := by
  obtain ⟨f, live, ⟨next, turn⟩, pending⟩ := waits
  obtain ⟨⟨key, known⟩, _⟩ := orders flat sound live turn
  obtain ⟨slot, there, _⟩ := Option.map_eq_some_iff.mp known
  have out : ¬ slot.Admits f.caller := by
    intro admitted
    have given := admitted_attempt there admitted
    simp [pending] at given
  cases lock : slot.lock with
  | free => exact absurd (.inl lock) out
  | held c => exact lock_owned locked there (.inl lock)
  | handed c => exact lock_owned locked there (.inr lock)

-- Of those that wait for each other the third goes on.
theorem third_goes {k : Nat} (first : w.WaitsFor i j) (second : w.WaitsFor j k) : w.Ready k := by
  obtain ⟨id, _, has⟩ := first
  obtain ⟨id', waits, has'⟩ := second
  rcases holder_goes locked flat sound has with ready | ⟨_, at', waits', zone⟩
  · exact absurd waits (ready_not_waiting ready)
  · rw [waits_at_one waits' waits] at zone
    exact zone_holder_goes locked flat sound zone has'

theorem no_circle : ¬ TransGen w.WaitsFor i i := by
  intro circle
  have short : ∀ {i j k l : Nat}, w.WaitsFor i j → w.WaitsFor j k → ¬ w.WaitsFor k l := by
    rintro i j k l first second ⟨id, waits, _⟩
    exact ready_not_waiting (third_goes locked flat sound first second) waits
  obtain ⟨j, first, back⟩ := TransGen.head'_iff.mp circle
  rcases ReflTransGen.cases_head back with rfl | ⟨k, second, back'⟩
  · exact short first first first
  · rcases ReflTransGen.cases_head back' with rfl | ⟨l, third, _⟩
    · exact short first second first
    · exact short first second third

theorem seeks_another_key {slot' : Slot} (live : w.Live i f) (seeks : f.Seeks id')
    (there : w.engine.cache.slots[id]? = some slot) (there' : w.engine.cache.slots[id']? = some slot')
    (computes : slot.lock = .held f.caller) : slot'.key ≠ slot.key := by
  have computing := ((locked.orderly.slots id slot there).held f.caller computes).1
  have taken := ((holds_iff locked.named live.1).mp computing).2
  obtain ⟨next, turn⟩ := seeks
  obtain ⟨_, none | ⟨top, one, ⟨key, g, known, virtual⟩, key', known', real⟩⟩ := orders flat sound live turn
  · simp [none] at taken
  · have same : id = top := by simpa [one] using taken
    subst same
    have here : slot.key = key := by simpa [ledger, Engine.ledger, Cache.key?, there] using known
    have here' : slot'.key = key' := by simpa [ledger, Engine.ledger, Cache.key?, there'] using known'
    intro equal
    rw [← here', equal, here, virtual] at real
    cases real

end

end World

/-- No request waits in a circle, whatever requests are under way: whoever has a lock goes on, or waits for a real
zone that is computed by one who goes on. -/
theorem never_deadlocked {v : Service} {r : Registry} {w : World} (reachable : Reachable v r w) :
    (∀ i, w.Ready i → ∃ w' f f' x, Step v w w' ∧ w.Live i f ∧ w'.Live i f' ∧ f'.transcript = f.transcript ++ [x]) ∧
    (∀ (id : SlotId) (slot : Slot) (c : Caller), w.engine.cache.slots[id]? = some slot →
      slot.lock = .held c ∨ slot.lock = .handed c → ∃ i, w.HasLock i id) ∧
    (∀ i id, w.HasLock i id → w.Ready i ∨
      ∃ id', w.WaitsAt i id' ∧ w.ledger.OfZone v.setup id' ∧ (∃ j, w.HasLock j id') ∧
        ∀ j, w.HasLock j id' → w.Ready j ∧ ∀ at', ¬ w.WaitsAt j at') ∧
    (∀ i id, w.WaitsAt i id → ∃ j, w.HasLock j id) ∧
    (∀ i, ¬ TransGen w.WaitsFor i i) ∧
    (∀ (i : Nat) (f : Flight) (id id' : SlotId) (slot slot' : Slot), w.Live i f →
      w.engine.cache.slots[id]? = some slot → slot.lock = .held f.caller → f.Seeks id' →
      w.engine.cache.slots[id']? = some slot' → slot'.key ≠ slot.key) := by
  have flat := reachable_flat reachable
  have sound := reachable_sound reachable
  have locked := reachable_locked reachable
  refine ⟨fun i => World.ready_steps, fun id slot c => World.lock_owned locked, ?_, ?_, ?_, ?_⟩
  · intro i id has
    rcases World.holder_goes locked flat sound has with ready | ⟨_, id', waits, zone⟩
    · exact .inl ready
    · refine .inr ⟨id', waits, zone, World.waits_for_someone locked flat sound waits, fun j has' => ?_⟩
      have ready := World.zone_holder_goes locked flat sound zone has'
      exact ⟨ready, fun at' => World.ready_not_waiting ready⟩
  · intro i id waits
    exact World.waits_for_someone locked flat sound waits
  · intro i
    exact World.no_circle locked flat sound
  · intro i f id id' slot slot' live there computes seeks there'
    exact World.seeks_another_key locked flat sound live seeks there there' computes

namespace World

variable {w : World} {i : Nat} {id : SlotId}

def isWaiting (w : World) (i : Nat) (id : SlotId) : Bool :=
  match w.flights[i]? with
  | some f =>
      match f.rest with
      | .ask (.wait (.enter id')) _ => id' = id && !f.dropped && (w.engine.attempt f.caller (.enter id)).2.isNone
      | _ => false
  | none => false

def isHolding (w : World) (i : Nat) (id : SlotId) : Bool :=
  match w.flights[i]?, w.engine.cache.slots[id]? with
  | some f, some slot => !f.dropped && (slot.lock = .held f.caller || slot.lock = .handed f.caller)
  | _, _ => false

theorem waits_at_of (waiting : w.isWaiting i id = true) : w.WaitsAt i id := by
  unfold isWaiting at waiting
  split at waiting
  · rename_i f there
    split at waiting
    · rename_i id' next turn
      simp only [Bool.and_eq_true, decide_eq_true_eq, Bool.not_eq_true', Option.isNone_iff_eq_none] at waiting
      obtain ⟨⟨rfl, live⟩, pending⟩ := waiting
      exact ⟨f, ⟨there, live⟩, ⟨next, turn⟩, pending⟩
    · cases waiting
  · cases waiting

theorem has_lock_of (holding : w.isHolding i id = true) : w.HasLock i id := by
  unfold isHolding at holding
  split at holding
  · rename_i f slot there place
    simp only [Bool.and_eq_true, Bool.not_eq_true', Bool.or_eq_true, decide_eq_true_eq] at holding
    exact ⟨f, slot, ⟨there, holding.1⟩, place, holding.2⟩
  · cases holding

end World

namespace Sample

-- A forecast of a constituent is computed, one of the virtual zone waits for it, and another one for that.
def queue : List Move :=
  .arrive (.predict "SCE" 24 {}) :: List.replicate 2 (.go 0) ++ [.fetched 0, .recorded 0, .reported 0] ++
    List.replicate 6 (.go 0) ++ .arrive (.predict "LA_METRO" 24 {}) :: List.replicate 10 (.go 1) ++
    .arrive (.predict "LA_METRO" 24 {}) :: List.replicate 7 (.go 2)

@[irreducible] def queued : World := played {} morning queue

theorem queued_evaluated : queued.isWaiting 2 1 = true ∧ queued.isHolding 1 1 = true ∧ queued.isWaiting 1 0 = true ∧
    queued.isHolding 0 0 = true := by decide +kernel

theorem queued_reachable : Reachable service (registry 1) queued := by
  obtain ⟨_, _, _, _, valid, _⟩ := evaluated
  unfold queued
  exact played_reachable valid morning queue

theorem queued_moves_on : queued.WaitsFor 2 1 ∧ queued.WaitsFor 1 0 ∧ queued.Ready 0 ∧
    ∀ i, ¬ TransGen queued.WaitsFor i i := by
  obtain ⟨waits, holds, waits', holds'⟩ := queued_evaluated
  obtain ⟨_, _, goes, _, circle, _⟩ := never_deadlocked queued_reachable
  refine ⟨⟨1, World.waits_at_of waits, World.has_lock_of holds⟩, ⟨0, World.waits_at_of waits', World.has_lock_of holds'⟩,
    ?_, circle⟩
  have waiting : queued.WaitsAt 1 0 := World.waits_at_of waits'
  rcases goes 1 1 (World.has_lock_of holds) with ready | ⟨id, also, _, _, free⟩
  · exact absurd waiting (World.ready_not_waiting ready)
  · cases World.waits_at_one waiting also
    exact (free 0 (World.has_lock_of holds')).1

end Sample

end GridLoad
