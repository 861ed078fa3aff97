import GridLoad.Proofs.Forecast.Failures
import GridLoad.Proofs.Serving.Runs
import GridLoad.Proofs.Serving.Waiting

/-!
Look-ups that are run with nobody else about. They come to what is right for their registry and snapshot, whatever was
stored before, and where nobody has a lock they are never held up.
-/

set_option autoImplicit false

namespace GridLoad

open Program
open GridLoad.Time (Timestamp)

-- Nobody has a lock, and nobody wants one.
def Cache.Unlocked (c : Cache) : Prop := c.Orderly (fun _ _ => False) fun _ _ => False

-- One caller has the locks of some slots, and nobody wants to enter any.
def Cache.HeldBy (caller : Caller) (ids : List SlotId) (c : Cache) : Prop :=
  c.Orderly (fun o id => o = caller ∧ id ∈ ids) fun _ _ => False

namespace Cache

variable {c : Cache} {caller : Caller} {ids rest : List SlotId} {id : SlotId} {now : Time.Instant}

theorem held_by_nobody (unlocked : c.Unlocked) (caller : Caller) : c.HeldBy caller [] :=
  orderly_kept unlocked rfl (fun _ _ => by simp) fun _ _ => id

-- The caller gets into any slot but those that it is in already.
theorem held_by_admits (held : c.HeldBy caller ids) {key : Key} (there : c.key? id = some key) (apart : id ∉ ids) :
    ∃ s, c.slots[id]? = some s ∧ s.Admits caller := by
  obtain ⟨s, place, _⟩ := Option.map_eq_some_iff.mp there
  refine ⟨s, place, ?_⟩
  have slot := held.slots id s place
  cases lock : s.lock with
  | free => exact .inl lock
  | held o => exact absurd (slot.held o lock).1.2 apart
  | handed o => exact absurd (slot.handed o lock).1 not_false

theorem leave_held_by (held : c.HeldBy caller (id :: rest)) (apart : id ∉ rest) (computed : Option Prediction) :
    (c.leave now id computed).HeldBy caller rest := by
  have own : caller = caller ∧ id ∈ id :: rest := ⟨rfl, List.mem_cons_self⟩
  refine leave_orderly held (fun o other at' => ?_) (fun _ => False.elim) (fun at' other => ?_) (fun _ => not_false) own
    fun both => apart both.2
  · exact ⟨⟨fun both => absurd both.1 other, fun both => absurd both.1 other⟩, False.elim⟩
  · simp [other]

end Cache

-- A slot is entered at once.
def Question.Prompt : (q : Question) → q.Answer → Prop
  | .wait (.enter _), none => False
  | _, _ => True

def promptly : Conduct Question.Answer := ⟨Question.Prompt, fun _ _ => True⟩

namespace Engine

variable {e : Engine} {caller : Caller} {deadline : Option Nat} {ids rest : List SlotId} {id : SlotId}

-- Nobody is waited for at such a slot, and the caller has the lock if it is to compute.
theorem enter_held_by (held : e.cache.HeldBy caller ids) {key : Key} (there : e.cache.key? id = some key)
    (apart : id ∉ ids) : ∃ entered, (e.attempt caller (.enter id)).2 = some entered ∧
      (e.attempt caller (.enter id)).1.cache.HeldBy caller (holding ids ⟨.wait (.enter id), some entered⟩) := by
  obtain ⟨s, place, turn⟩ := Cache.held_by_admits held there apart
  have entry : e.cache.enter e.now caller id = e.cache.look e.now caller id s := Cache.enter_admitted place turn
  cases stored : s.content.value? e.now with
  | some p =>
      have met : (e.cache.enter e.now caller id).2 = .found p := by simp [entry, Cache.look, stored]
      refine ⟨.found p, by simp [attempt, met], ?_⟩
      exact Cache.found_orderly held (fun _ _ _ => ⟨.rfl, False.elim⟩) (fun _ => False.elim) (fun _ _ => .rfl) met .rfl
  | none =>
      have met : (e.cache.enter e.now caller id).2 = .granted := by simp [entry, Cache.look, stored]
      refine ⟨.granted, by simp [attempt, met], ?_⟩
      refine Cache.granted_orderly held (fun o other at' => ?_) (fun _ => False.elim) (fun at' other => ?_) met
        ⟨rfl, List.mem_cons_self⟩
      · exact ⟨⟨fun both => absurd both.1 other, fun both => absurd both.1 other⟩, False.elim⟩
      · exact ⟨fun both => ⟨rfl, (List.mem_cons.mp both.2).resolve_left other⟩,
          fun both => ⟨rfl, List.mem_cons_of_mem id both.2⟩⟩

section Looks

variable {setup : Setup} {h : History} {e' e'' : Engine}

-- What a look-up leaves: every slot keeps its key, and what is stored is right.
structure Looks (setup : Setup) (h : History) (e e' : Engine) : Prop where
  keys : e.cache.KeysKept e'.cache
  sound : e'.cache.Sound ((e'.ledger h).Made setup)

theorem keys_grow (kept : e.cache.KeysKept e'.cache) : (e.ledger h).Grows (e'.ledger h) where
  key? id key found := kept id key found
  published := List.Subset.refl _
  named := List.Subset.refl _

theorem looks_kept (kept : e.cache.KeysKept e'.cache) (sound : e'.cache.Sound ((e.ledger h).Made setup)) :
    Looks setup h e e' :=
  ⟨kept, Cache.sound_weaken sound fun _ _ made => Ledger.made_grows (keys_grow kept) made⟩

theorem looks_trans (first : Looks setup h e e') (second : Looks setup h e' e'') : Looks setup h e e'' :=
  ⟨fun id key found => second.keys id key (first.keys id key found), second.sound⟩

variable (sound : e.cache.Sound ((e.ledger h).Made setup))

include sound

theorem looks_same (cache : e'.cache = e.cache) : Looks setup h e e' :=
  looks_kept (cache ▸ fun _ _ found => found) (cache ▸ sound)

theorem perform_looks {a : Act} {t : Transcript} (kind : (Question.act a).OfLookup)
    (allowed : (e.ledger h).Allows setup t (.act a)) :
    Looks setup h e (e.perform a).1 ∧ ((e.perform a).1.ledger h).Vouches setup (.act a) (e.perform a).2 := by
  cases a with
  | slot key =>
      exact ⟨looks_kept (Cache.slot_for_keys key) (Cache.slot_for_sound sound), Cache.slot_for_found sound⟩
  | leave id computed => exact ⟨looks_kept (Cache.leave_keys computed) (Cache.leave_sound sound allowed), trivial⟩
  | wallTime => exact ⟨looks_same sound rfl, trivial⟩
  | note event => exact ⟨looks_same sound rfl, trivial⟩
  | count counter => exact ⟨looks_same sound rfl, trivial⟩
  | _ => exact absurd kind id

theorem await_looks (caller : Caller) (deadline : Option Nat) (since : Nat) {w : Wait} (kind : (Question.wait w).OfLookup) :
    Looks setup h e (e.awaitSince caller deadline since w).1 ∧
      ((e.awaitSince caller deadline since w).1.ledger h).Vouches setup (.wait w)
        (e.awaitSince caller deadline since w).2 := by
  cases w with
  | enter id =>
      have entered : Looks setup h e (e.attempt caller (.enter id)).1 :=
        looks_kept Cache.enter_keys (Cache.enter_sound sound)
      unfold awaitSince
      split
      · rename_i e' answer attempted
        have given : (e.attempt caller (.enter id)).2 = some answer := by rw [attempted]
        rw [attempted] at entered
        refine ⟨entered, ?_⟩
        rcases enter_attempted given with ⟨p, rfl, found⟩ | rfl
        · obtain ⟨key, there, made⟩ := Cache.enter_found sound found
          exact ⟨key, entered.keys id key there, Ledger.made_grows (keys_grow entered.keys) made⟩
        · trivial
      · rename_i e' attempted
        rw [attempted] at entered
        -- Time passes, and the caller gives up.
        have passed := (lasting_pass beside_lasting e' (deadline.getD e'.clock.millis)).cache
        refine ⟨looks_trans entered (looks_kept ?_ ?_), trivial⟩
        · simp only [giveUp, passed]
          exact Cache.withdraw_keys
        · simp only [giveUp, passed]
          exact Cache.withdraw_sound entered.sound
  | _ => exact absurd kind not_false

end Looks

section Locks

variable {Γ : Ledger} {setup : Setup} {h : History} {t : Transcript}

theorem await_given {w : Wait} {answer : w.Answer} (given : (e.attempt caller w).2 = some answer) (since : Nat) :
    e.awaitSince caller deadline since w = e.attempt caller w := by
  unfold awaitSince
  split
  · rename_i attempted
    exact attempted.symm
  · rename_i attempted
    rw [attempted] at given
    cases given

theorem perform_held {a : Act} (locks : e.cache.HeldBy caller (held t)) (ordered : Γ.Orders setup t (.act a)) :
    (e.perform a).1.cache.HeldBy caller (held (t ++ [⟨.act a, (e.perform a).2⟩])) := by
  by_cases leaves : a.Leaves
  · cases a with
    | leave id computed =>
        obtain ⟨rest, taken, apart⟩ := ordered
        rw [taken] at locks
        have left : held (t ++ [⟨.act (.leave id computed), ()⟩]) = rest := by
          rw [held_leave, taken, List.erase_cons_head]
        rw [show held (t ++ [⟨.act (.leave id computed), _⟩]) = rest from left]
        exact Cache.leave_held_by locks apart computed
    | _ => exact absurd leaves id
  · rw [held_act leaves]
    exact perform_orderly leaves locks

-- A request that takes the locks in their order waits for none of its own.
theorem await_held {w : Wait} (kind : (Question.wait w).OfLookup) (locks : e.cache.HeldBy caller (held t))
    (ordered : (e.ledger h).Orders setup t (.wait w)) (since : Nat) :
    (e.awaitSince caller deadline since w).1.cache.HeldBy caller
      (held (t ++ [⟨.wait w, (e.awaitSince caller deadline since w).2⟩])) ∧
        (Question.wait w).Prompt (e.awaitSince caller deadline since w).2 := by
  cases w with
  | enter id =>
      obtain ⟨⟨key, there⟩, order⟩ := ordered
      have apart : id ∉ held t := by
        rcases order with none | ⟨top, taken, group, zone⟩
        · simp [none]
        · simpa [taken] using Ledger.zone_not_group zone group
      obtain ⟨entered, given, further⟩ := enter_held_by locks there apart
      rw [await_given given, given, held_snoc]
      exact ⟨further, trivial⟩
  | _ => exact absurd kind not_false

end Locks

-- A look-up that is run comes to what it is to come to. Where nobody has a lock it does not wait either.
theorem run_lookup {setup : Setup} {h : History} {free : Prop} {α : Type} {post quick : α → Prop} {p : Serve α}
    {t : Transcript} (caller : Caller) (deadline : Option Nat) (asks : Asks Question.OfLookup p)
    (sound : e.cache.Sound ((e.ledger h).Made setup))
    (met : ∀ e' : Engine, e.cache.KeysKept e'.cache →
      Meets ((e'.ledger h).conduct setup) (fun _ value => post value) p t)
    (nested : ∀ e' : Engine, e.cache.KeysKept e'.cache → Meets ((e'.ledger h).nesting setup) (fun _ _ => True) p t)
    (locks : free → e.cache.HeldBy caller (held t)) (prompt : free → Meets promptly (fun _ value => quick value) p t) :
    post (e.run caller deadline p).2 ∧ (free → quick (e.run caller deadline p).2) := by
  induction asks generalizing e t with
  | done value => exact ⟨met e fun _ _ found => found, prompt⟩
  | @ask q next kind _ ih =>
      have here : e.cache.KeysKept e.cache := fun _ _ found => found
      have onward : ∀ {e₁ : Engine} {answer : q.Answer}, Looks setup h e.tick e₁ → (e₁.ledger h).Vouches setup q answer →
          (free → e₁.cache.HeldBy caller (held (t ++ [⟨q, answer⟩])) ∧ q.Prompt answer) →
          post (e₁.run caller deadline (next answer)).2 ∧ (free → quick (e₁.run caller deadline (next answer)).2) := by
        intro e₁ answer looks vouched quickly
        have still : ∀ e' : Engine, e₁.cache.KeysKept e'.cache → e.cache.KeysKept e'.cache :=
          fun e' kept id key found => kept id key (looks.keys id key found)
        refine ih answer looks.sound (fun e' kept => ?_) (fun e' kept => ?_) (fun f => (quickly f).1) fun f => ?_
        · exact (met e' (still e' kept)).2 answer (Ledger.vouches_grows (keys_grow kept) vouched)
        · exact (nested e' (still e' kept)).2 answer (Ledger.vouches_grows (keys_grow kept) vouched)
        · exact (prompt f).2 answer (quickly f).2
      cases q with
      | act a =>
          obtain ⟨looks, vouched⟩ := perform_looks (e := e.tick) sound kind (met e here).1
          exact onward looks vouched fun f => ⟨perform_held (e := e.tick) (locks f) (nested e here).1, trivial⟩
      | wait w =>
          obtain ⟨looks, vouched⟩ := await_looks (e := e.tick) sound caller deadline e.clock.millis kind
          exact onward looks vouched fun f => await_held (e := e.tick) kind (locks f) (nested e here).1 e.clock.millis

end Engine

section Prompt

variable {setup : Setup} {r : Registry} {zone : String} {horizon : Nat} {s : NamedSnapshot}

theorem prompt_act {α : Type} {post : Transcript → α → Prop} {t : Transcript} {a : Act} {f : a.Answer → Serve α}
    (further : ∀ answer u, Meets promptly post (f answer) u) : Meets promptly post (act a >>= f) t :=
  meets_first trivial fun answer _ => further answer _

theorem prompt_cached {key : Key} {compute : Serve (Outcome Prediction)}
    (computed : ∀ t, Meets promptly (fun _ out => out ≠ .error .outOfTime) compute t) (t : Transcript) :
    Meets promptly (fun _ out => out ≠ .error .outOfTime) (cached key compute) t := by
  refine prompt_act fun slot u => meets_first trivial fun entered prompt => ?_
  match entered, prompt with
  | some (.found p), _ => exact meets_pure (by simp)
  | some .granted, _ =>
      refine meets_bind (computed _) fun u out early => prompt_act fun _ u' => meets_pure ?_
      exact early_map.mpr early

theorem prompt_resolve_zone (t : Transcript) :
    Meets promptly (fun _ out => out ≠ .error .outOfTime) (resolveZone setup r horizon s zone) t := by
  refine prompt_cached (fun t => prompt_act fun now u => ?_) t
  refine meets_bind (meets_each (fun v u => meets_question trivial fun _ _ => trivial) _) fun _ _ _ => meets_pure fun late => ?_
  exact zone_forecast_of_zone late

theorem prompt_gather {g : Group} {members : List Member} (t : Transcript) :
    Meets promptly (fun _ gathered => gathered.outcome ≠ .error .outOfTime)
      (gather (askMember setup r horizon s) g horizon s.token members) t := by
  induction members generalizing t with
  | nil => exact meets_pure (by simp)
  | cons m rest ih =>
      have asked : Meets promptly (fun _ out => out ≠ .error .outOfTime) (askMember setup r horizon s m.zone) t :=
        meets_bind (prompt_resolve_zone t) fun u out early => meets_pure (early_map.mpr early)
      rw [gather]
      refine meets_bind asked fun u out early => ?_
      cases out with
      | error halt =>
          cases halt with
          | failed cause => exact meets_pure (by simp [fail])
          | pastCalendar => exact meets_pure (by simp)
          | outOfTime => exact absurd rfl early
      | ok p =>
          dsimp only
          split
          · exact meets_pure (by simp [fail])
          · exact meets_bind (ih u) fun _ others later => meets_pure (early_map.mpr later)

theorem prompt_compute_group {g : Group} (t : Transcript) :
    Meets promptly (fun _ out => out ≠ .error .outOfTime) (computeGroup setup r g horizon s) t := by
  have summed : ∀ now u, Meets promptly (fun _ both => both.1 ≠ .error .outOfTime)
      (groupForecast setup.settings.combination (askMember setup r horizon s) g horizon s.token now) u := by
    intro now u
    refine meets_bind (prompt_gather u) fun _ gathered early => ?_
    cases outcome : gathered.outcome with
    | ok parts => exact meets_pure (by simp)
    | error halt => exact meets_pure (by simpa [outcome] using early)
  refine prompt_act fun now u => meets_bind (summed now u) fun u' both early => ?_
  exact meets_bind (meets_each (fun event u => meets_question trivial fun _ _ => trivial) _) fun _ _ _ => meets_pure early

theorem prompt_resolve (t : Transcript) :
    Meets promptly (fun _ out => out ≠ .error .outOfTime) (resolve setup r zone horizon s) t := by
  unfold resolve
  split
  · exact prompt_resolve_zone t
  · exact prompt_cached prompt_compute_group t

theorem prompt_series (horizons : List Nat) (t : Transcript) :
    Meets promptly (fun _ out => out ≠ .error .outOfTime) (Service.series setup r zone s horizons) t := by
  induction horizons generalizing t with
  | nil => exact meets_pure (by simp)
  | cons horizon rest ih =>
      rw [Service.series]
      refine meets_bind (prompt_resolve t) fun u out early => ?_
      cases out with
      | error halt => exact meets_pure (by simpa using early)
      | ok c => exact prompt_act fun _ u => meets_bind (ih u) fun _ others later => meets_pure (early_map.mpr later)

end Prompt

theorem asks_series {setup : Setup} {r : Registry} {zone : String} {s : NamedSnapshot} (horizons : List Nat) :
    Asks Question.OfLookup (Service.series setup r zone s horizons) := by
  induction horizons with
  | nil => exact asks_pure _
  | cons horizon rest ih =>
      rw [Service.series]
      refine asks_bind asks_resolve fun out => ?_
      cases out with
      | error halt => exact asks_pure _
      | ok c => exact asks_act trivial fun _ => asks_bind ih fun _ => asks_pure _

-- A state in which what is looked up for a registry and a snapshot is what they give.
structure Engine.Serves (v : Service) (h : History) (free : Prop) (r : Registry) (base : Outcome NamedSnapshot)
    (e : Engine) : Prop where
  served : r ∈ h.published
  known : ∀ s, base = .ok s → (e.ledger h).Knows s
  distinct : (e.ledger h).Distinct
  sound : e.cache.Sound ((e.ledger h).Made v.setup)
  unlocked : free → e.cache.Unlocked

namespace Engine

variable {v : Service} {h : History} {free : Prop} {r : Registry} {base : Outcome NamedSnapshot} {s : NamedSnapshot}
  {e e' : Engine} {zone : String}

theorem serves_beside (serves : e.Serves v h free r base) (beside : e.Beside e') : e'.Serves v h free r base := by
  have same : e'.ledger h = e.ledger h := by simp only [ledger, beside.cache]
  refine ⟨serves.served, ?_, ?_, ?_, ?_⟩
  · rw [same]
    exact serves.known
  · rw [same]
    exact serves.distinct
  · rw [same, beside.cache]
    exact serves.sound
  · rw [beside.cache]
    exact serves.unlocked

variable (serves : e.Serves v h free r (.ok s)) (flat : v.setup.catalog.Flat) (caller : Caller) (deadline : Option Nat)

include serves flat

omit flat in
-- Which slots there are does not count for what is distinct.
theorem lookup_right {α : Type} {p : Serve (Outcome α)} {right : Ledger → Outcome α → Prop} (same : Outcome α → Prop)
    (asks : Asks Question.OfLookup p)
    (met : ∀ Γ : Ledger, r ∈ Γ.published → Γ.Knows s → Meets (Γ.conduct v.setup) (fun _ out => right Γ out) p [])
    (nested : ∀ Γ : Ledger, Γ.Balanced v.setup [] p)
    (prompt : Meets promptly (fun _ out => out ≠ .error .outOfTime) p [])
    (gives : ∀ Γ out, Γ.Distinct → right Γ out → out ≠ .error .outOfTime → same out)
    (early : free ∨ (e.run caller deadline p).2 ≠ .error .outOfTime) : same (e.run caller deadline p).2 := by
  have known := serves.known s rfl
  have gives : ∀ e' : Engine, Meets ((e'.ledger h).conduct v.setup) (fun _ out => out ≠ .error .outOfTime → same out) p [] :=
    fun e' => meets_weaken (met (e'.ledger h) serves.served known) fun _ out holds =>
      gives (e'.ledger h) out ⟨serves.distinct.registries, serves.distinct.tokens⟩ holds
  obtain ⟨gave, quick⟩ := run_lookup caller deadline asks serves.sound (fun e' _ => gives e')
    (fun e' _ => meets_weaken (nested (e'.ledger h) [] rfl) fun _ _ _ => trivial)
    (fun f => Cache.held_by_nobody (serves.unlocked f) caller) fun _ => prompt
  exact gave (early.elim quick id)

theorem resolve_right {horizon : Nat}
    (early : free ∨ (e.run caller deadline (resolve v.setup r zone horizon s)).2 ≠ .error .outOfTime) (now : Timestamp) :
    Agree ((e.run caller deadline (resolve v.setup r zone horizon s)).2.map (·.prediction))
      (uncached v.setup r zone horizon s now) :=
  lookup_right serves caller deadline (fun out => Agree (out.map (·.prediction)) (uncached v.setup r zone horizon s now))
    asks_resolve (fun _ served known => meets_resolve served known flat []) (fun _ => Ledger.balanced_resolve flat)
    (prompt_resolve []) (fun _ _ distinct answers inTime => answers.same distinct (early_map.mpr inTime) now) early

theorem series_right {horizons : List Nat}
    (early : free ∨ (e.run caller deadline (Service.series v.setup r zone s horizons)).2 ≠ .error .outOfTime)
    (now : Timestamp) :
    AgreeAll (e.run caller deadline (Service.series v.setup r zone s horizons)).2
      (uncachedSeries v.setup r zone s now horizons) :=
  lookup_right serves caller deadline
    (fun out => AgreeAll out (uncachedSeries v.setup r zone s now horizons)) (asks_series horizons)
    (fun _ served known => meets_series flat served known horizons [])
    (fun _ => Ledger.balanced_series flat r zone s horizons) (prompt_series horizons [])
    (fun _ _ distinct answers inTime => answers.same distinct inTime now) early

end Engine

end GridLoad
