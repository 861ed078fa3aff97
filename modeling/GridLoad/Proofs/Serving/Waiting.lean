import GridLoad.Proofs.Cache.Locks
import GridLoad.Proofs.Serving.Invariant
import GridLoad.Proofs.Serving.Nesting

/-!
The locks of the slots are in the hands of the requests: whoever has one has been granted it and has not left, and
whoever is in a line wants to enter.
-/

set_option autoImplicit false

namespace GridLoad

open Program

-- What a request asks next is to enter a slot.
def Flight.Seeks (f : Flight) (id : SlotId) : Prop := ∃ next, f.rest = .ask (.wait (.enter id)) next

section

variable {v : Service} {Γ : Ledger} {f : Flight}

theorem flight_ordered {q : Question} {next : q.Answer → Serve f.ask.Answer} (flat : v.setup.catalog.Flat)
    (sound : f.Sound v Γ) (turn : f.rest = .ask q next) : Γ.Orders v.setup f.transcript q := by
  have met := meets_leads (Ledger.balanced_ask flat f.ask) sound.led sound.vouched
  rw [turn] at met
  exact met.1

theorem flight_done {value : f.ask.Answer} (flat : v.setup.catalog.Flat) (sound : f.Sound v Γ)
    (done : f.rest = .done value) : held f.transcript = [] := by
  have met := meets_leads (Ledger.balanced_ask flat f.ask) sound.led sound.vouched
  rw [done] at met
  exact met

end

-- Who has the lock of a slot, and who wants it.
def Holds (flights : List Flight) (caller : Caller) (id : SlotId) : Prop :=
  ∃ (i : Nat) (f : Flight), flights[i]? = some f ∧ f.caller = caller ∧ f.dropped = false ∧ id ∈ held f.transcript

def Wants (flights : List Flight) (caller : Caller) (id : SlotId) : Prop :=
  ∃ (i : Nat) (f : Flight), flights[i]? = some f ∧ f.caller = caller ∧ f.dropped = false ∧ f.Seeks id

-- No two requests go by one name.
def Named (flights : List Flight) : Prop :=
  ∀ (i j : Nat) (f g : Flight), flights[i]? = some f → flights[j]? = some g → f.caller = g.caller → i = j

section

variable {flights : List Flight} {i : Nat} {f f' : Flight} {id : SlotId}

theorem named_same {j : Nat} {g : Flight} (named : Named flights) (there : flights[i]? = some f)
    (other : flights[j]? = some g) (same : g.caller = f.caller) : g = f := by
  have place := named j i g f other there same
  subst place
  exact Option.some.inj (other.symm.trans there)

theorem holds_iff (named : Named flights) (there : flights[i]? = some f) :
    Holds flights f.caller id ↔ f.dropped = false ∧ id ∈ held f.transcript := by
  constructor
  · rintro ⟨j, g, other, same, live, taken⟩
    cases named_same named there other same
    exact ⟨live, taken⟩
  · rintro ⟨live, taken⟩
    exact ⟨i, f, there, rfl, live, taken⟩

theorem wants_iff (named : Named flights) (there : flights[i]? = some f) :
    Wants flights f.caller id ↔ f.dropped = false ∧ f.Seeks id := by
  constructor
  · rintro ⟨j, g, other, same, live, seeks⟩
    cases named_same named there other same
    exact ⟨live, seeks⟩
  · rintro ⟨live, seeks⟩
    exact ⟨i, f, there, rfl, live, seeks⟩

variable (there : flights[i]? = some f)

include there

theorem set_there : (flights.set i f')[i]? = some f' := by
  simp [(List.getElem?_eq_some_iff.mp there).1]

variable (same : f'.caller = f.caller)

include same

theorem named_set (named : Named flights) : Named (flights.set i f') := by
  -- A request that has gone on has kept its name.
  have before : ∀ (j : Nat) (g : Flight), (flights.set i f')[j]? = some g →
      ∃ g', flights[j]? = some g' ∧ g'.caller = g.caller := by
    intro j g place
    by_cases here : i = j
    · subst here
      have now : f' = g := by simpa [List.getElem?_set, (List.getElem?_eq_some_iff.mp there).1] using place
      exact ⟨f, there, by rw [← now, same]⟩
    · exact ⟨g, by simpa [here] using place, rfl⟩
  intro j k g h place place' equal
  obtain ⟨g', old, kept⟩ := before j g place
  obtain ⟨h', old', kept'⟩ := before k h place'
  exact named j k g' h' old old' (by rw [kept, kept', equal])

theorem set_other {j : Nat} {g : Flight} (different : g.caller ≠ f.caller) :
    (flights.set i f')[j]? = some g ↔ flights[j]? = some g := by
  by_cases here : i = j
  · subst here
    rw [set_there there, there]
    constructor
    · intro now
      exact absurd (Option.some.inj now ▸ same) different
    · intro now
      exact absurd (congrArg Flight.caller (Option.some.inj now)).symm different
  · simp [here]

theorem others_go_on (o : Caller) (different : o ≠ f.caller) (at' : SlotId) :
    (Holds (flights.set i f') o at' ↔ Holds flights o at') ∧
      (Wants flights o at' → Wants (flights.set i f') o at') := by
  refine ⟨⟨?_, ?_⟩, ?_⟩
  · rintro ⟨j, g, place, rfl, rest⟩
    exact ⟨j, g, (set_other there same different).mp place, rfl, rest⟩
  · rintro ⟨j, g, place, rfl, rest⟩
    exact ⟨j, g, (set_other there same different).mpr place, rfl, rest⟩
  · rintro ⟨j, g, place, rfl, rest⟩
    exact ⟨j, g, (set_other there same different).mpr place, rfl, rest⟩

end

namespace World

structure Locked (w : World) : Prop where
  fresh : ∀ f ∈ w.flights, f.caller < w.engine.callers
  named : Named w.flights
  orderly : w.engine.cache.Orderly (Holds w.flights) (Wants w.flights)

variable {v : Service} {w w' : World} {i : Nat} {f : Flight}

theorem locked_set {f' : Flight} {e : Engine} {h : History} (locked : w.Locked) (there : w.flights[i]? = some f)
    (same : f'.caller = f.caller) (callers : e.callers = w.engine.callers)
    (orderly : e.cache.Orderly (Holds (w.flights.set i f')) (Wants (w.flights.set i f'))) :
    Locked { engine := e, flights := w.flights.set i f', history := h } := by
  refine ⟨fun g member => ?_, named_set there same locked.named, orderly⟩
  have bound := locked.fresh f (List.mem_of_getElem? there)
  rcases List.mem_or_eq_of_mem_set member with before | rfl
  · exact callers ▸ locked.fresh g before
  · rw [callers, same]
    exact bound

end World

namespace Engine

variable {e : Engine} {holds waits : Caller → SlotId → Prop}

theorem perform_orderly {a : Act} (stays : ¬ a.Leaves) (orderly : e.cache.Orderly holds waits) :
    (e.perform a).1.cache.Orderly holds waits := by
  cases a with
  | leave id computed => exact absurd trivial stays
  | slot key => exact Cache.slot_for_orderly key orderly
  | look =>
      obtain ⟨_, _, same⟩ := look_apart e
      rw [same]
      exact orderly
  | retain generation => exact ⟨orderly.slots, orderly.holders⟩
  | purgeCache => exact ⟨orderly.slots, orderly.holders⟩
  | _ => exact orderly

theorem perform_callers (e : Engine) (a : Act) : (e.perform a).1.callers = e.callers := by
  cases a with
  | look =>
      obtain ⟨_, _, same⟩ := look_apart e
      rw [same]
  | _ => rfl

theorem attempt_beside {w : Wait} (other : ¬ w.Enters) (e : Engine) (caller : Caller) :
    (e.attempt caller w).1.cache = e.cache := by
  cases w with
  | enter id => exact absurd trivial other
  | reloadTurn =>
      simp only [attempt]
      split <;> rfl
  | _ => rfl

theorem attempt_callers (e : Engine) (caller : Caller) (w : Wait) : (e.attempt caller w).1.callers = e.callers := by
  obtain ⟨_, _, same⟩ := attempt_apart e caller w
  rw [same]

theorem give_up_beside {w : Wait} (other : ¬ w.Enters) (e : Engine) (caller : Caller) :
    (e.giveUp caller w).cache = e.cache := by
  cases w with
  | enter id => exact absurd trivial other
  | _ => rfl

theorem give_up_callers (e : Engine) (caller : Caller) (w : Wait) : (e.giveUp caller w).callers = e.callers := by
  obtain ⟨_, same⟩ := give_up_apart e caller w
  rw [same]

end Engine

namespace World

variable {v : Service} {w w' : World} {i : Nat} {f : Flight} {e : Engine} {x : Exchange Question.Answer}
  {rest : Serve f.ask.Answer} {id : SlotId}

-- The requests stay where they are.
theorem locked_engine {h : History} (locked : w.Locked) (callers : e.callers = w.engine.callers)
    (orderly : e.cache.Orderly (Holds w.flights) (Wants w.flights)) :
    Locked { engine := e, flights := w.flights, history := h } :=
  ⟨fun g member => callers ▸ locked.fresh g member, locked.named, orderly⟩

theorem seeks_nothing {q : Question} {next : q.Answer → Serve f.ask.Answer} (turn : f.rest = .ask q next)
    (other : ∀ at', q ≠ .wait (.enter at')) (at' : SlotId) : ¬ f.Seeks at' := by
  rintro ⟨next', seeks⟩
  rw [turn] at seeks
  exact other at' (Program.ask.inj seeks).1

theorem seeks_only {next : Option Entered → Serve f.ask.Answer} (turn : f.rest = .ask (.wait (.enter id)) next)
    (at' : SlotId) (seeks : f.Seeks at') : at' = id := by
  obtain ⟨next', seeks⟩ := seeks
  rw [turn] at seeks
  exact (Wait.enter.inj (Question.wait.inj (Program.ask.inj seeks).1)).symm

section

variable (locked : w.Locked) (there : w.flights[i]? = some f)

include locked there

theorem held_after (at' : SlotId) :
    Holds (w.flights.set i (f.goOn x rest)) f.caller at' ↔ f.dropped = false ∧ at' ∈ held (f.transcript ++ [x]) :=
  holds_iff (f := f.goOn x rest) (named_set there rfl locked.named) (set_there there)

omit locked in
theorem others_on : ∀ o, o ≠ f.caller → ∀ at',
    (Holds (w.flights.set i (f.goOn x rest)) o at' ↔ Holds w.flights o at') ∧
      (Wants w.flights o at' → Wants (w.flights.set i (f.goOn x rest)) o at') :=
  others_go_on there rfl

-- A request asks for something else than a slot and gives none back.
theorem quiet_exchange (idle : ∀ at', ¬ f.Seeks at') (same : held (f.transcript ++ [x]) = held f.transcript)
    (callers : e.callers = w.engine.callers) (orderly : e.cache.Orderly (Holds w.flights) (Wants w.flights)) :
    (w.exchange i f e x rest).Locked := by
  refine locked_set locked there rfl callers (Cache.orderly_kept orderly rfl (fun o at' => ?_) fun o at' wants => ?_)
  · by_cases self : o = f.caller
    · subst self
      rw [held_after locked there, holds_iff locked.named there, same]
    · exact (others_on there o self at').1
  · by_cases self : o = f.caller
    · subst self
      exact absurd ((wants_iff locked.named there).mp wants).2 (idle at')
    · exact (others_on there o self at').2 wants

variable (live : f.dropped = false)

include live

theorem leave_exchange {computed : Option Prediction} {ids : List SlotId} {next : Unit → Serve f.ask.Answer}
    (turn : f.rest = .ask (.act (.leave id computed)) next) (taken : held f.transcript = id :: ids) (once : id ∉ ids) :
    (w.exchange i f (w.engine.perform (.leave id computed)).1 ⟨.act (.leave id computed), ()⟩ (next ())).Locked := by
  have after : held (f.transcript ++ [⟨.act (.leave id computed), ()⟩]) = ids := by
    rw [held_leave, taken, List.erase_cons_head]
  refine locked_set locked there rfl rfl ?_
  refine Cache.leave_orderly locked.orderly (others_on there) ?_ ?_ ?_ ?_ ?_
  · intro at' wants
    exact absurd ((wants_iff locked.named there).mp wants).2 (seeks_nothing turn (by simp) at')
  · intro at' other
    rw [held_after locked there, holds_iff locked.named there, after, taken, List.mem_cons]
    simp [other]
  · intro at' wants
    exact absurd ((wants_iff locked.named there).mp wants).2 (seeks_nothing turn (by simp) at')
  · exact (holds_iff locked.named there).mpr ⟨live, by simp [taken]⟩
  · rw [held_after locked there, after]
    simp [once]

section

variable {next : Option Entered → Serve f.ask.Answer}

-- It has entered the slot or has given up: it has the locks that it had.
omit live in
theorem same_held {answer : Option Entered} (ungranted : answer ≠ some .granted) (at' : SlotId) :
    Holds (w.flights.set i (f.goOn ⟨.wait (.enter id), answer⟩ (next answer))) f.caller at' ↔
      Holds w.flights f.caller at' := by
  rw [held_after locked there, holds_iff locked.named there, held_ungranted ungranted]

variable (turn : f.rest = .ask (.wait (.enter id)) next)

include turn

omit live in
theorem wants_only (at' : SlotId) (wants : Wants w.flights f.caller at') : at' = id :=
  seeks_only turn at' ((wants_iff locked.named there).mp wants).2

theorem enter_exchange {entered : Entered}
    (given : (w.engine.attempt f.caller (.enter id)).2 = some entered) :
    (w.exchange i f (w.engine.attempt f.caller (.enter id)).1 ⟨.wait (.enter id), some entered⟩
      (next (some entered))).Locked := by
  refine locked_set locked there rfl rfl ?_
  cases entered with
  | found p =>
      have met : (w.engine.cache.enter w.engine.now f.caller id).2 = .found p := by
        simp only [Engine.attempt] at given
        split at given <;> simp_all
      exact Cache.found_orderly locked.orderly (others_on there) (wants_only locked there turn)
        (fun at' _ => same_held locked there (by simp) at') met (same_held locked there (by simp) id)
  | granted =>
      have met : (w.engine.cache.enter w.engine.now f.caller id).2 = .granted := by
        simp only [Engine.attempt] at given
        split at given <;> simp_all
      refine Cache.granted_orderly locked.orderly (others_on there) (wants_only locked there turn) ?_ met ?_
      · intro at' other
        rw [held_after locked there, holds_iff locked.named there, held_granted, List.mem_cons]
        simp [other]
      · rw [held_after locked there, held_granted]
        exact ⟨live, List.mem_cons_self⟩

theorem line_up (pending : (w.engine.attempt f.caller (.enter id)).2 = none) :
    Locked { w with engine := (w.engine.attempt f.caller (.enter id)).1 } := by
  have met : (w.engine.cache.enter w.engine.now f.caller id).2 = .waits := by
    simp only [Engine.attempt] at pending
    split at pending <;> simp_all
  refine locked_engine locked rfl (Cache.waits_orderly locked.orderly (wants_only locked there turn) ?_ met)
  exact (wants_iff locked.named there).mpr ⟨live, next, turn⟩

omit live in
theorem cut_exchange : (w.exchange i f (w.engine.giveUp f.caller (.enter id)) ⟨.wait (.enter id), none⟩
    (next none)).Locked := by
  refine locked_set locked there rfl rfl ?_
  exact Cache.withdraw_orderly locked.orderly (others_on there) (wants_only locked there turn)
    (fun at' _ => same_held locked there (by simp) at') (same_held locked there (by simp) id)

end

omit live in
theorem drop_locked : (w.drop i f).Locked := by
  have named : Named (w.flights.set i { f with dropped := true }) := named_set there rfl locked.named
  have orderly : (w.engine.cache.abandon f.caller).Orderly (Holds (w.flights.set i { f with dropped := true }))
      (Wants (w.flights.set i { f with dropped := true })) := by
    refine Cache.abandon_orderly locked.orderly (others_go_on there rfl) ?_
    rintro at' ⟨j, g, place, same, alive, _⟩
    cases named_same named (set_there there) place same
    cases alive
  unfold drop
  exact locked_set locked there rfl rfl orderly

end

-- Nobody has seen a new request.
theorem arrive_locked (ask : Ask) (locked : w.Locked) : (w.arrive v ask).Locked := by
  have place : ∀ (j : Nat) (g : Flight), (w.arrive v ask).flights[j]? = some g →
      w.flights[j]? = some g ∨ j = w.flights.length ∧ g.caller = w.engine.callers ∧ g.transcript = [] := by
    intro j g there
    by_cases old : j < w.flights.length
    · exact .inl ((List.getElem?_append_left old).symm.trans there)
    · have last := (List.getElem?_append_right (Nat.le_of_not_lt old)).symm.trans there
      have within := (List.getElem?_eq_some_iff.mp there).1
      cases List.mem_singleton.mp (List.mem_of_getElem? last)
      simp only [arrive, List.length_append, List.length_singleton] at within
      exact .inr ⟨Nat.le_antisymm (Nat.le_of_lt_succ within) (Nat.le_of_not_lt old), rfl, rfl⟩
  have kept : ∀ (j : Nat) (g : Flight), w.flights[j]? = some g → (w.arrive v ask).flights[j]? = some g :=
    fun j g there => (List.getElem?_append_left (List.getElem?_eq_some_iff.mp there).1).trans there
  have below : ∀ (j : Nat) (g : Flight), w.flights[j]? = some g → g.caller < w.engine.callers :=
    fun j g there => locked.fresh g (List.mem_of_getElem? there)
  refine ⟨?_, ?_, Cache.orderly_kept locked.orderly rfl (fun o at' => ⟨?_, ?_⟩) ?_⟩
  · intro g member
    obtain ⟨j, there⟩ := List.mem_iff_getElem?.mp member
    rcases place j g there with old | ⟨_, new, _⟩
    · exact Nat.lt_succ_of_lt (below j g old)
    · exact new ▸ Nat.lt_succ_self _
  · intro j k g g' there there' same
    rcases place j g there with old | ⟨last, new, _⟩ <;> rcases place k g' there' with old' | ⟨last', new', _⟩
    · exact locked.named j k g g' old old' same
    · exact absurd (below j g old) (by rw [same, new']; exact Nat.lt_irrefl _)
    · exact absurd (below k g' old') (by rw [← same, new]; exact Nat.lt_irrefl _)
    · rw [last, last']
  · rintro ⟨j, g, there, same, live, taken⟩
    rcases place j g there with old | ⟨_, _, begun⟩
    · exact ⟨j, g, old, same, live, taken⟩
    · simp [begun, held] at taken
  · rintro ⟨j, g, there, rest⟩
    exact ⟨j, g, kept j g there, rest⟩
  · rintro o at' ⟨j, g, there, rest⟩
    exact ⟨j, g, kept j g there, rest⟩

theorem apart_from {wait : Wait} (enters : ¬ wait.Enters) (at' : SlotId) :
    Question.wait wait ≠ .wait (.enter at') := by
  intro same
  cases same
  exact enters trivial

theorem step_locked (flat : v.setup.catalog.Flat) (sound : w.Sound v) (locked : w.Locked) (step : Step v w w') :
    w'.Locked := by
  cases step with
  | arrives ask => exact arrive_locked ask locked
  | @acts i f a next there live turn =>
      by_cases leaves : a.Leaves
      · cases a with
        | leave id computed =>
            obtain ⟨ids, taken, once⟩ := flight_ordered flat (sound.flights f (flight_mem there)) turn
            exact leave_exchange locked there live turn taken once
        | _ => cases leaves
      · exact quiet_exchange locked there (seeks_nothing turn (by simp)) (held_act leaves _ _)
          (Engine.perform_callers _ _) (Engine.perform_orderly leaves locked.orderly)
  | @answered i f wait next answer there live turn given =>
      by_cases enters : wait.Enters
      · cases wait with
        | enter id => exact enter_exchange locked there live turn given
        | _ => cases enters
      · refine quiet_exchange locked there (seeks_nothing turn (apart_from enters)) (held_wait enters _ _)
          (Engine.attempt_callers _ _ _) ?_
        rw [Engine.attempt_beside enters]
        exact locked.orderly
  | @waits i f wait next there live turn pending =>
      by_cases enters : wait.Enters
      · cases wait with
        | enter id => exact line_up locked there live turn pending
        | _ => cases enters
      · refine locked_engine locked (Engine.attempt_callers _ _ _) ?_
        rw [Engine.attempt_beside enters]
        exact locked.orderly
  | @late i f id patience next there live turn =>
      have other : ¬ (Wait.refreshed id (some patience)).Enters := not_false
      exact quiet_exchange locked there (seeks_nothing turn (by simp)) (held_wait other _ _) rfl locked.orderly
  | @cut i f wait next there live turn =>
      by_cases enters : wait.Enters
      · cases wait with
        | enter id => exact cut_exchange locked there turn
        | _ => cases enters
      · refine quiet_exchange locked there (seeks_nothing turn (apart_from enters)) (held_wait enters _ _)
          (Engine.give_up_callers _ _ _) ?_
        rw [Engine.give_up_beside enters]
        exact locked.orderly
  | drops there live => exact drop_locked locked there
  | fetched id => exact locked_engine (w := w) locked rfl locked.orderly
  | recorded id => exact locked_engine (w := w) locked rfl locked.orderly
  | reported id => exact locked_engine (w := w) locked rfl locked.orderly
  | outside files source clock journal later => exact locked_engine locked rfl locked.orderly

end World

theorem begins_locked {setup : Setup} {r : Registry} {running : Running} (begins : Begins setup r running) :
    (World.first r running.engine).Locked := by
  have nobody : ∀ {i : Nat} {f : Flight}, (World.first r running.engine).flights[i]? ≠ some f := by
    intro i f there
    cases there
  have unmade : ∀ {id : SlotId} {s : Slot}, running.engine.cache.slots[id]? ≠ some s := by
    intro id s there
    rw [begins.cache] at there
    cases there
  constructor
  · intro f member
    cases member
  · intro i j f g there
    exact absurd there nobody
  · constructor
    · intro id s there
      exact absurd there unmade
    · rintro caller id ⟨i, f, there, _⟩
      exact absurd there nobody

theorem reachable_locked {v : Service} {r : Registry} {w : World} (reachable : Reachable v r w) : w.Locked := by
  induction reachable with
  | launched accepted started => exact begins_locked (launch_begins started)
  | further before step ih => exact World.step_locked (reachable_flat before) (reachable_sound before) ih step

end GridLoad
