import GridLoad.Proofs.Serving.Runs
import GridLoad.Proofs.Serving.Schedule

/-!
What a request puts on record of the forecasts that it serves, and how that goes with its answer. A trend puts each of
its forecasts on record as soon as it is there.
-/

set_option autoImplicit false

namespace GridLoad

open Program

def Event.isServed : Event → Bool
  | .served .. => true
  | _ => false

def noted? : Exchange Question.Answer → Option Event
  | ⟨.act (.note event), _⟩ => some event
  | _ => none

-- The events of served forecasts among all that a request has put on record.
def servedIn (t : Transcript) : List Event := (t.filterMap noted?).filter Event.isServed

-- An event that tells of a forecast.
def Event.Tells (operation : String) (e : Event) (p : Prediction) : Prop :=
  ∃ hit, e = .served operation p.zone p.horizon p.token p.point p.width hit

-- These events tell of the forecasts in an answer, one for one and in order; without an answer there are none.
def Accounts {α : Type} (operation : String) (forecasts : α → List Prediction) (events : List Event)
    (out : Option α) : Prop :=
  List.Forall₂ (Event.Tells operation) events ((out.map forecasts).getD [])

def Question.Quiet (q : Question) : Prop := ∀ event, q = .act (.note event) → event.isServed = false

theorem accounts_nothing {α : Type} {operation : String} {forecasts : α → List Prediction} {events : List Event}
    {out : Option α} (silent : events = []) (empty : (out.map forecasts).getD [] = []) :
    Accounts operation forecasts events out := by
  rw [Accounts, silent, empty]
  exact .nil

theorem served_in_append (t u : Transcript) : servedIn (t ++ u) = servedIn t ++ servedIn u := by
  simp only [servedIn, List.filterMap_append, List.filter_append]

theorem served_in_quiet {q : Question} (quiet : q.Quiet) (answer : q.Answer) (t : Transcript) :
    servedIn (t ++ [⟨q, answer⟩]) = servedIn t := by
  have nothing : servedIn [⟨q, answer⟩] = [] := by
    cases q with
    | wait w => rfl
    | act a =>
        cases a with
        | note event => simp [servedIn, noted?, quiet event rfl]
        | _ => rfl
  rw [served_in_append, nothing, List.append_nil]

theorem served_in_served (operation : String) (c : Cached) (t : Transcript) :
    servedIn (t ++ [⟨.act (.note (served operation c)), ()⟩]) = servedIn t ++ [served operation c] := by
  rw [served_in_append]
  rfl

-- A program that puts nothing on record as served.
def Quietly {α : Type} (p : Serve α) : Prop := ∀ t, Meets anyhow (fun u _ => servedIn u = servedIn t) p t

section

variable {α β : Type}

theorem quietly_asks {p : Serve α} (asks : Asks Question.Quiet p) : Quietly p := fun t =>
  asks_meets (fun u => servedIn u = servedIn t) asks (fun _ _ _ _ => trivial)
    (fun u _ answer same quiet => (served_in_quiet quiet answer u).trans same) rfl

theorem quietly_pure (value : α) : Quietly (pure value : Serve α) := fun _ => rfl

theorem quietly_bind {p : Serve β} {f : β → Serve α} (first : Quietly p) (second : ∀ value, Quietly (f value)) :
    Quietly (p >>= f) := fun t =>
  meets_bind (first t) fun u value same => meets_weaken (second value u) fun _ _ later => later.trans same

theorem quietly_act {a : Act} {f : a.Answer → Serve α} (quiet : (Question.act a).Quiet)
    (further : ∀ answer, Quietly (f answer)) : Quietly (act a >>= f) :=
  quietly_bind (quietly_asks (asks_question quiet)) further

theorem quietly_wait {w : Wait} {f : Option w.Answer → Serve α} (further : ∀ answer, Quietly (f answer)) :
    Quietly (wait w >>= f) :=
  quietly_bind (quietly_asks (asks_question (nofun))) further

theorem store_quiet (q : Question) (kind : q.OfStore) : q.Quiet := by
  rintro event rfl
  cases event with
  | stale => rfl
  | _ => exact absurd kind id

theorem quietly_snapshot {setup : Setup} (sourceName zone : String) (o : Options) :
    Quietly (snapshotFor setup sourceName zone o) :=
  quietly_asks (asks_weaken (asks_snapshot_for sourceName zone o) store_quiet)

theorem quietly_basis (v : Service) (zone : String) (o : Options) : Quietly (v.basis zone o) := by
  refine quietly_act nofun fun r => ?_
  split
  · exact quietly_pure _
  · exact quietly_bind (quietly_snapshot _ _ _) fun _ => quietly_pure _

end

section Lookups

variable {setup : Setup} {r : Registry} {horizon : Nat} {s : NamedSnapshot} {zone : String}

theorem quietly_cached {key : Key} {compute : Serve (Outcome Prediction)} (inner : Quietly compute) :
    Quietly (cached key compute) := by
  refine quietly_act nofun fun slot => quietly_wait fun entered => ?_
  match entered with
  | none => exact quietly_pure _
  | some (.found p) => exact quietly_pure _
  | some .granted => exact quietly_bind inner fun out => quietly_act nofun fun _ => quietly_pure _

theorem quietly_resolve_zone : Quietly (resolveZone setup r horizon s zone) := by
  refine quietly_cached (quietly_act nofun fun now => quietly_bind (quietly_asks (asks_each fun v => ?_)) fun _ => ?_)
  · exact asks_question nofun
  · exact quietly_pure _

-- The constituents are asked quietly, and no event that they give rise to is one of serving.
theorem gather_quiet {g : Group} {members : List Member} (t : Transcript) : Meets anyhow
    (fun u gathered => servedIn u = servedIn t ∧ ∀ event ∈ gathered.events, event.isServed = false)
    (gather (askMember setup r horizon s) g horizon s.token members) t := by
  induction members generalizing t with
  | nil => exact ⟨rfl, by simp⟩
  | cons m rest ih =>
      rw [gather]
      have asked : Quietly (askMember setup r horizon s m.zone) :=
        quietly_bind quietly_resolve_zone fun _ => quietly_pure _
      refine meets_bind (asked t) fun u out same => ?_
      cases out with
      | error halt =>
          cases halt with
          | failed cause => exact ⟨same, by simp [Event.isServed]⟩
          | pastCalendar | outOfTime => exact ⟨same, by simp⟩
      | ok p =>
          dsimp only
          split
          · exact ⟨same, by simp⟩
          · exact meets_bind (ih u) fun w others later => ⟨later.1.trans same, later.2⟩

theorem group_forecast_quiet {g : Group} (now : Time.Timestamp) (t : Transcript) : Meets anyhow
    (fun u both => servedIn u = servedIn t ∧ ∀ event ∈ both.2, event.isServed = false)
    (groupForecast setup.settings.combination (askMember setup r horizon s) g horizon s.token now) t := by
  refine meets_bind (gather_quiet t) fun u gathered quiet => ?_
  split
  · exact quiet
  · refine ⟨quiet.1, fun event member => ?_⟩
    rcases List.mem_append.mp member with before | sum
    · exact quiet.2 event before
    · cases List.mem_singleton.mp sum
      rfl

theorem notes_quiet {events : List Event} (quiet : ∀ event ∈ events, event.isServed = false) :
    Quietly (events.forM fun event => act (.note event)) := by
  induction events with
  | nil => exact quietly_pure _
  | cons event rest ih =>
      rw [List.forM_eq_forM, List.forM_cons]
      refine quietly_act ?_ fun _ => ih fun other member => quiet other (List.mem_cons_of_mem event member)
      rintro _ ⟨⟩
      exact quiet event List.mem_cons_self

theorem quietly_compute_group {g : Group} : Quietly (computeGroup setup r g horizon s) := by
  refine quietly_act nofun fun now t => ?_
  refine meets_bind (group_forecast_quiet now t) fun u both quiet => ?_
  refine meets_bind (notes_quiet quiet.2 u) fun w _ same => same.trans quiet.1

theorem quietly_resolve : Quietly (resolve setup r zone horizon s) := by
  unfold resolve
  cases setup.catalog.get? zone with
  | none => exact quietly_resolve_zone
  | some g => exact quietly_cached quietly_compute_group

end Lookups

-- How far a trend came: its forecasts at the first horizons were put on record, and at all of them if it has an
-- answer.
def Progress (right : Nat → Prediction → Prop) (horizons : List Nat) (events : List Event)
    (out : Option (List Prediction)) : Prop :=
  ∃ early late ps, horizons = early ++ late ∧ List.Forall₂ right early ps ∧
    List.Forall₂ (Event.Tells "trend") events ps ∧ (∀ qs, out = some qs → late = [] ∧ qs = ps) ∧
    (out = none → late ≠ [])

section

variable {right : Nat → Prediction → Prop} {horizon : Nat} {rest : List Nat}

theorem progress_done : Progress right [] [] (some []) := by
  refine ⟨[], [], [], rfl, .nil, .nil, fun qs same => ⟨rfl, (Option.some.inj same).symm⟩, nofun⟩

theorem progress_stopped : Progress right (horizon :: rest) [] none :=
  ⟨[], horizon :: rest, [], rfl, .nil, .nil, nofun, nofun⟩

theorem progress_further {c : Cached} {events : List Event} {out : Option (List Prediction)}
    (here : right horizon c.prediction) (later : Progress right rest events out) :
    Progress right (horizon :: rest) (served "trend" c :: events) (out.map (c.prediction :: ·)) := by
  obtain ⟨early, late, ps, rfl, fit, told, made, stopped⟩ := later
  refine ⟨horizon :: early, late, c.prediction :: ps, rfl, .cons here fit, .cons ⟨c.hit, rfl⟩ told, ?_, ?_⟩
  · intro qs same
    obtain ⟨others, found, rfl⟩ := Option.map_eq_some_iff.mp same
    obtain ⟨none, rfl⟩ := made others found
    exact ⟨none, rfl⟩
  · exact fun none => stopped (Option.map_eq_none_iff.mp none)

end

-- What may always be counted and noted.
structure Lenient (c : Conduct Question.Answer) : Prop where
  counts : ∀ t counter, c.guarantee t (.act (.count counter))
  notes : ∀ t event, c.guarantee t (.act (.note event))

theorem anyhow_lenient : Lenient anyhow := ⟨fun _ _ => trivial, fun _ _ => trivial⟩

theorem conduct_lenient (Γ : Ledger) (setup : Setup) : Lenient (Γ.conduct setup) :=
  ⟨fun _ _ => trivial, fun _ _ => trivial⟩

section

variable {c : Conduct Question.Answer} {v : Service} {zone : String} {o : Options} {α : Type}

-- A budget adds nothing to the record and takes no value away.
theorem meets_bounded_recorded (lenient : Lenient c) {post : List Event → Option α → Prop} {setup : Setup}
    {operation : String} {body : Serve (Outcome α)} {t : Transcript}
    (met : Meets c (fun u out => post (servedIn u) out.toOption) body t) :
    Meets c (fun u out => post (servedIn u) out.toOption) (bounded setup operation body) t := by
  have counted : ∀ (u : Transcript) (counter : Counter),
      servedIn (u ++ [⟨.act (.count counter), ()⟩]) = servedIn u := fun u counter =>
    served_in_quiet (q := .act (.count counter)) nofun () u
  refine meets_bind met fun u raw holds => ?_
  match raw with
  | .ok value =>
      refine meets_first (lenient.counts _ _) fun _ _ => ?_
      rw [← counted u (.latency operation)] at holds
      exact holds
  | .error .pastCalendar => exact holds
  | .error (.failed f) =>
      refine meets_first (lenient.counts _ _) fun _ _ => meets_first (lenient.counts _ _) fun _ _ => ?_
      rw [← counted u (.latency operation), ← counted _ (.failures f.kind)] at holds
      exact holds
  | .error .outOfTime =>
      refine meets_first (lenient.counts _ _) fun _ _ => meets_first (lenient.counts _ _) fun _ _ => ?_
      rw [← counted u (.latency operation),
        ← counted _ (.failures (Failure.timedOut setup.settings.requestTimeout).kind)] at holds
      exact holds

theorem meets_on_basis_recorded {post : List Event → Option α → Prop} (given : Registry → NamedSnapshot → Prop)
    {further : Registry → NamedSnapshot → Serve (Outcome α)}
    (based : Meets c (fun u both => servedIn u = [] ∧ ∀ s, both.2 = .ok s → given both.1 s) (v.basis zone o) [])
    (none : post [] none)
    (met : ∀ r s t, given r s → servedIn t = [] →
      Meets c (fun u out => post (servedIn u) out.toOption) (further r s) t) :
    Meets c (fun u out => post (servedIn u) out.toOption) (v.onBasis zone o further) [] := by
  refine meets_bind based fun u both begun => ?_
  obtain ⟨r, base⟩ := both
  obtain ⟨silent, gives⟩ := begun
  cases base with
  | error halt =>
      rw [← silent] at none
      exact none
  | ok s => exact met r s u (gives s rfl) silent

theorem meets_series_recorded (lenient : Lenient c) {right : Nat → Prediction → Prop} {r : Registry} {s : NamedSnapshot}
    (each : ∀ h t, Meets c (fun u out => servedIn u = servedIn t ∧ ∀ k, out = .ok k → right h k.prediction)
      (resolve v.setup r zone h s) t) (horizons : List Nat) (t : Transcript) :
    Meets c (fun u out => ∃ events, servedIn u = servedIn t ++ events ∧ Progress right horizons events out.toOption)
      (Service.series v.setup r zone s horizons) t := by
  induction horizons generalizing t with
  | nil => exact ⟨[], by simp, progress_done⟩
  | cons horizon rest ih =>
      rw [Service.series]
      refine meets_bind (each horizon t) fun u out resolved => ?_
      obtain ⟨same, fits⟩ := resolved
      cases out with
      | error halt => exact ⟨[], by simpa using same, progress_stopped⟩
      | ok k =>
          refine meets_first (lenient.notes _ _) fun _ _ => meets_bind (ih _) fun w others later => ?_
          obtain ⟨events, told, progress⟩ := later
          refine ⟨served "trend" k :: events, ?_, ?_⟩
          · rw [told, served_in_served, same, List.append_assoc]
            rfl
          · have further := progress_further (fits k rfl) progress
            cases others <;> exact further

-- A trend that has no snapshot to begin with puts nothing on record.
def Reached (right : NamedSnapshot → Nat → Prediction → Prop) (horizons : List Nat) (events : List Event)
    (out : Option (List Prediction)) : Prop :=
  (events = [] ∧ out = none) ∨ ∃ s, Progress (right s) horizons events out

theorem meets_trend_recorded (right : NamedSnapshot → Nat → Prediction → Prop) (lenient : Lenient c)
    (given : Registry → NamedSnapshot → Prop)
    (based : Meets c (fun u both => servedIn u = [] ∧ ∀ s, both.2 = .ok s → given both.1 s) (v.basis zone o) [])
    (each : ∀ r s h t, given r s → Meets c
      (fun u out => servedIn u = servedIn t ∧ ∀ k, out = .ok k → right s h k.prediction) (resolve v.setup r zone h s) t)
    (horizons : List Nat) :
    Meets c (fun u out => Reached right horizons (servedIn u) out.toOption) (v.trend zone horizons o) [] := by
  rw [trend_on_basis]
  apply meets_bounded_recorded lenient
  refine meets_on_basis_recorded given based (.inl ⟨rfl, rfl⟩) fun r s t known silent => ?_
  apply meets_weaken (meets_series_recorded lenient (fun h t => each r s h t known) horizons t)
  rintro u out ⟨events, told, progress⟩
  rw [silent, List.nil_append] at told
  exact .inr ⟨s, told ▸ progress⟩

theorem basis_silent (v : Service) (zone : String) (o : Options) : Meets anyhow
    (fun u both => servedIn u = [] ∧ ∀ s, both.2 = .ok s → True) (v.basis zone o) [] :=
  meets_weaken (quietly_basis v zone o []) fun _ _ silent => ⟨silent, fun _ _ => trivial⟩

theorem meets_predict_recorded (v : Service) (zone : String) (horizon : Nat) (o : Options) : Meets anyhow
    (fun u out => Accounts "predict" (fun p => [p]) (servedIn u) out.toOption) (v.predict zone horizon o) [] := by
  rw [predict_on_basis]
  apply meets_bounded_recorded anyhow_lenient
  refine meets_on_basis_recorded (fun _ _ => True) (basis_silent v zone o) .nil fun r s t _ silent => ?_
  refine meets_bind (quietly_resolve t) fun u out same => ?_
  rw [silent] at same
  cases out with
  | error halt => exact accounts_nothing same rfl
  | ok k =>
      refine meets_first trivial fun _ _ => ?_
      change List.Forall₂ _ (servedIn _) [k.prediction]
      rw [served_in_served, same]
      exact .cons ⟨k.hit, rfl⟩ .nil

theorem finish_recorded {zone : String} {described : ZoneStatus} (forecast : Outcome Cached) {t : Transcript}
    (silent : servedIn t = []) (alone : described.current = none) : Meets anyhow
    (fun u out => Accounts "status" (·.current.toList) (servedIn u) out.toOption)
    (Service.finishStatus zone described forecast) t := by
  have asked : ∀ (u : Transcript) last, servedIn (u ++ [⟨.act (.lastComputed zone), last⟩]) = servedIn u :=
    fun u last => served_in_quiet (q := .act (.lastComputed zone)) nofun last u
  match forecast with
  | .ok k =>
      refine meets_first trivial fun _ _ => meets_first trivial fun last _ => ?_
      change List.Forall₂ _ (servedIn _) [k.prediction]
      rw [asked, served_in_served, silent]
      exact .cons ⟨k.hit, rfl⟩ .nil
  | .error (.failed f) =>
      refine meets_first trivial fun last _ => accounts_nothing ((asked t last).trans silent) ?_
      exact congrArg Option.toList alone
  | .error .pastCalendar => exact accounts_nothing silent rfl
  | .error .outOfTime => exact accounts_nothing silent rfl

theorem quietly_forecast_of (v : Service) (zone : String) (r : Registry) (base : Outcome NamedSnapshot) :
    Quietly (v.forecastOf zone r base) := by
  cases base with
  | error halt => exact quietly_pure _
  | ok s => exact quietly_resolve

theorem meets_status_recorded (v : Service) (zone : String) : Meets anyhow
    (fun u out => Accounts "status" (·.current.toList) (servedIn u) out.toOption) (v.status zone) [] := by
  rw [Service.status_on_basis]
  apply meets_bounded_recorded anyhow_lenient
  refine meets_bind (quietly_basis v zone {} []) fun u both silent => ?_
  cases known : describe v.setup.catalog both.1 zone with
  | error f => exact accounts_nothing silent rfl
  | ok described =>
      refine meets_bind (quietly_forecast_of v zone both.1 both.2 u) fun w forecast same => ?_
      exact finish_recorded forecast (same.trans silent) (described_alone known).1

end

namespace Engine

section

variable {e : Engine} {caller : Caller} {deadline : Option Nat} {α : Type}

-- The forecasts on record as served.
def onRecord (e : Engine) : List Event := e.journal.filter Event.isServed

theorem record_lasting : Lasting fun e e' => e'.onRecord = e.onRecord where
  trans first second := second.trans first
  clocked _ _ := rfl
  ended e id := by
    unfold endRefresh
    dsimp only
    split
    · simp [onRecord, log, tick, Event.isServed]
    · rfl

theorem perform_on_record (e : Engine) (a : Act) :
    (e.perform a).1.onRecord = e.onRecord ++ servedIn [⟨.act a, (e.perform a).2⟩] := by
  cases a with
  | note event =>
      simp only [perform, log, onRecord, List.filter_append]
      rfl
  | look =>
      obtain ⟨_, _, same⟩ := look_apart e
      rw [same]
      exact (List.append_nil _).symm
  | _ => exact (List.append_nil _).symm

theorem attempt_on_record (e : Engine) (caller : Caller) (w : Wait) : (e.attempt caller w).1.onRecord = e.onRecord := by
  obtain ⟨_, _, same⟩ := attempt_apart e caller w
  rw [same]
  rfl

theorem await_on_record (e : Engine) (caller : Caller) (deadline : Option Nat) (since : Nat) (w : Wait) :
    (e.awaitSince caller deadline since w).1.onRecord = e.onRecord := by
  refine lasting_await record_lasting deadline (fun e => attempt_on_record e caller w) (fun e => ?_) e since
  cases w <;> rfl

-- What a request that is served alone adds to the record is what it has put there by its own questions.
theorem run_on_record (caller : Caller) (deadline : Option Nat) (p : Serve α) (e : Engine) :
    ∃ t, Leads p t (.done (e.run caller deadline p).2) ∧
      (e.run caller deadline p).1.onRecord = e.onRecord ++ servedIn t := by
  induction p generalizing e with
  | done value => exact ⟨[], .here _, (List.append_nil _).symm⟩
  | ask q next ih =>
      cases q with
      | act a =>
          obtain ⟨t, leads, record⟩ := ih (e.tick.perform a).2 (e.tick.perform a).1
          refine ⟨⟨.act a, (e.tick.perform a).2⟩ :: t, .further leads, record.trans ?_⟩
          rw [perform_on_record, List.append_assoc, ← served_in_append]
          rfl
      | wait w =>
          obtain ⟨t, leads, record⟩ := ih (e.tick.awaitSince caller deadline e.clock.millis w).2
            (e.tick.awaitSince caller deadline e.clock.millis w).1
          refine ⟨⟨.wait w, _⟩ :: t, .further leads, record.trans ?_⟩
          rw [await_on_record]
          rfl

theorem serve_on_record (task : Task α) (e : Engine) :
    ∃ t, Leads task.program t (.done (e.serve task).2) ∧ (e.serve task).1.onRecord = e.onRecord ++ servedIn t := by
  obtain ⟨t, leads, record⟩ := run_on_record e.receive.2 (task.deadline e.receive.1) task.program e.receive.1
  exact ⟨t, leads, (lasting_before record_lasting _ _).trans record⟩

end

end Engine

section

variable {v : Service} {first : Registry} {w : World} {zone : String} {o : Options} {t : Transcript}

theorem made_aim {Γ : Ledger} {setup : Setup} (flat : setup.catalog.Flat) {k : Key} {p : Prediction}
    (made : Γ.Made setup k p) : p.zone = k.zone ∧ p.horizon = k.horizon ∧ p.token = k.token := by
  cases found : setup.catalog.get? k.zone with
  | none =>
      rw [Ledger.Made, found] at made
      exact Ledger.alone_aim made
  | some g =>
      rw [Ledger.Made, found] at made
      obtain ⟨_, _, _, rfl⟩ := made
      exact ⟨(flat.formed k.zone g found).named, rfl, rfl⟩

-- The forecasts of a trend that is told of are for the zone and for the horizons in turn, all from one snapshot.
theorem trend_reached (reachable : Reachable v first w) {horizons : List Nat} {out : Outcome (List Prediction)}
    (answered : w.Answered (.trend zone horizons o) t out) :
    Reached (fun s h p => p.zone = zone ∧ p.horizon = h ∧ p.token = s.token) horizons (servedIn t) out.toOption := by
  have flat := reachable_flat reachable
  refine answered_meets reachable answered (meets_trend_recorded _ (conduct_lenient _ _)
    (fun r s => r ∈ w.ledger.published ∧ w.ledger.Knows s) ?_ ?_ horizons)
  · apply meets_weaken (meets_and_anyhow (meets_basis v zone o []) (quietly_basis v zone o []))
    rintro u ⟨r, base⟩ ⟨founds, silent⟩
    refine ⟨silent, ?_⟩
    rintro s rfl
    exact ⟨founds.served, founds_known founds⟩
  · rintro r s h u ⟨served, known⟩
    apply meets_weaken (meets_and_anyhow (meets_resolve served known flat u) (quietly_resolve u))
    rintro x out ⟨answers, same⟩
    refine ⟨same, ?_⟩
    rintro k rfl
    exact made_aim flat (answers.made k.prediction rfl)

end

/-- The forecasts that a request has put on record as served are those in its answer, in order; but a trend that fails
has put on record those of the horizons before. A request that is served alone adds just these to the record. -/
theorem served_on_record (v : Service) :
    (∀ zone horizon o t out, Leads (v.predict zone horizon o) t (.done out) →
      Accounts "predict" (fun p => [p]) (servedIn t) out.toOption) ∧
    (∀ zone t out, Leads (v.status zone) t (.done out) →
      Accounts "status" (·.current.toList) (servedIn t) out.toOption) ∧
    (∀ zone horizons o t out, Leads (v.trend zone horizons o) t (.done out) →
      (∀ ps, out = .ok ps → Accounts "trend" id (servedIn t) (some ps)) ∧
      ∀ halt, out = .error halt → servedIn t = [] ∨ (servedIn t).length < horizons.length) ∧
    (∀ first w, Reachable v first w → ∀ zone horizons o t halt, w.Answered (.trend zone horizons o) t (.error halt) →
      ∃ early late ps, horizons = early ++ late ∧ (early = [] ∨ late ≠ []) ∧
        (∃ token, List.Forall₂ (fun h p => p.zone = zone ∧ p.horizon = h ∧ p.token = token) early ps) ∧
        List.Forall₂ (Event.Tells "trend") (servedIn t) ps ∧ (servedIn t = [] ↔ early = [])) ∧
    ∀ (ask : Ask) (budget : Option Time.Span) (e : Engine),
      ∃ t, Leads (ask.program v) t (.done (e.serve ⟨budget, ask.program v⟩).2) ∧
        (e.serve ⟨budget, ask.program v⟩).1.onRecord = e.onRecord ++ servedIn t := by
  refine ⟨?_, ?_, ?_, ?_, fun ask budget e => Engine.serve_on_record ⟨budget, ask.program v⟩ e⟩
  · intro zone horizon o t out leads
    exact meets_leads (meets_predict_recorded v zone horizon o) leads fun _ _ => trivial
  · intro zone t out leads
    exact meets_leads (meets_status_recorded v zone) leads fun _ _ => trivial
  · intro zone horizons o t out leads
    have met := meets_trend_recorded (fun _ _ _ => True) anyhow_lenient (fun _ _ => True)
      (basis_silent v zone o) (fun r s h u _ => meets_weaken (quietly_resolve u) fun _ _ same => ⟨same, fun _ _ => trivial⟩)
      horizons
    have reached := meets_leads met leads fun _ _ => trivial
    rcases reached with ⟨silent, none⟩ | ⟨_, early, late, ps, rfl, fit, told, made, stopped⟩
    · refine ⟨?_, fun _ _ => .inl silent⟩
      rintro _ rfl
      cases none
    · constructor
      · rintro qs rfl
        obtain ⟨_, rfl⟩ := made qs rfl
        exact told
      · rintro halt rfl
        have more := List.length_pos_iff.mpr (stopped rfl)
        have events := told.length_eq.trans fit.length_eq.symm
        simp only [List.nil_append] at events
        exact .inr (by rw [List.length_append]; omega)
  · intro first w reachable zone horizons o t halt answered
    rcases trend_reached reachable answered with ⟨silent, _⟩ | ⟨s, early, late, ps, rfl, fit, told, _, stopped⟩
    · rw [silent]
      exact ⟨[], horizons, [], rfl, .inl rfl, ⟨"", .nil⟩, .nil, by simp⟩
    · refine ⟨early, late, ps, rfl, .inr (stopped rfl), ⟨s.token, fit⟩, told, ?_⟩
      rw [← List.length_eq_zero_iff, ← List.length_eq_zero_iff, told.length_eq, fit.length_eq]

namespace Sample

-- A trend whose second horizon is out of range.
def overlong : Engine × Outcome (List Prediction) :=
  (running {} morning).engine.serve ⟨none, service.trend "SCE" [1, 49] {}⟩

theorem overlong_evaluated :
    overlong.2 = fail (.horizonOutOfRange "SCE" 49 1 48) ∧ (running {} morning).engine.onRecord = [] ∧
      overlong.1.onRecord.map Event.name = ["prediction_served"] := by
  decide +kernel

-- A request that fails may have told of forecasts that nobody was given.
theorem served_without_answer : ¬ ∀ (e : Engine) (horizons : List Nat) (halt : Halt),
    (e.serve ⟨none, service.trend "SCE" horizons {}⟩).2 = .error halt →
      (e.serve ⟨none, service.trend "SCE" horizons {}⟩).1.onRecord = e.onRecord := by
  intro silent
  obtain ⟨failed, before, after⟩ := overlong_evaluated
  have same : overlong.1.onRecord = (running {} morning).engine.onRecord := silent _ [1, 49] _ failed
  rw [same, before] at after
  cases after

@[irreducible] def cutShort : World := played {} morning (opening (.trend "SCE" [1, 49] {}))

def isOutOfRange : Outcome (List Prediction) → Bool
  | .error (.failed (.horizonOutOfRange ..)) => true
  | _ => false

theorem cut_short_evaluated : cutShort.answers (.trend "SCE" [1, 49] {}) isOutOfRange = true := by decide +kernel

theorem cut_short_recorded :
    (∃ t halt, cutShort.Answered (.trend "SCE" [1, 49] {}) t (.error halt) ∧
      ∃ early late ps, [1, 49] = early ++ late ∧ (early = [] ∨ late ≠ []) ∧
        (∃ token, List.Forall₂ (fun h p => p.zone = "SCE" ∧ p.horizon = h ∧ p.token = token) early ps) ∧
        List.Forall₂ (Event.Tells "trend") (servedIn t) ps ∧ (servedIn t = [] ↔ early = [])) ∧
    ∃ t, Leads (service.trend "SCE" [1, 49] {}) t (.done overlong.2) ∧
      overlong.1.onRecord = (running {} morning).engine.onRecord ++ servedIn t ∧ (servedIn t).length < 2 := by
  obtain ⟨_, _, series, reached, alone⟩ := served_on_record service
  constructor
  · obtain ⟨t, out, answered, failed⟩ := answers_answered cut_short_evaluated
    cases out with
    | ok ps => cases failed
    | error halt =>
        obtain ⟨_, _, _, _, valid, _⟩ := evaluated
        have reachable : Reachable service (registry 1) cutShort := by
          unfold cutShort
          exact played_reachable valid morning _
        exact ⟨t, halt, answered, reached _ _ reachable _ _ _ _ _ answered⟩
  · obtain ⟨t, leads, record⟩ := alone (.trend "SCE" [1, 49] {}) none (running {} morning).engine
    refine ⟨t, leads, record, ?_⟩
    rcases (series _ _ _ _ _ leads).2 _ overlong_evaluated.1 with silent | fewer
    · rw [silent]
      decide
    · exact fewer

end Sample

end GridLoad
