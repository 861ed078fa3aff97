import GridLoad.Proofs.Forecast.Failures
import GridLoad.Proofs.Serving.Schedule

/-!
Where answers come from. Everything in one answer was computed with the registry that was served when its request
took it, and from the snapshot that it names; so was everything that is stored under a key.
-/

set_option autoImplicit false

namespace GridLoad

open Program
open GridLoad.Time (Timestamp)

-- Several steps, one after the other.
inductive Became (v : Service) : World → World → Prop
  | still (w : World) : Became v w w
  | later {w w' w'' : World} (before : Became v w w') (step : Step v w' w'') : Became v w w''

-- What a request may say in a step.
inductive Utters (w w' : World) : Exchange Question.Answer → Prop
  | act (a : Act) (done : w'.engine = (w.engine.perform a).1) : Utters w w' ⟨.act a, (w.engine.perform a).2⟩
  | wait (wait : Wait) (answer : Option wait.Answer) : Utters w w' ⟨.wait wait, answer⟩

-- How a request goes on in a step. What it is answered at once is what the engine answers then.
inductive Flight.Steps (w w' : World) : Flight → Flight → Prop
  | still (f : Flight) : Steps w w' f f
  | dropped (f : Flight) : Steps w w' f { f with dropped := true }
  | further (f : Flight) {x : Exchange Question.Answer} (rest : Serve f.ask.Answer) (utters : Utters w w' x) :
      Steps w w' f (f.goOn x rest)

-- How a step changes the flight at a place: not at all in what it has said, or by one exchange more.
structure Continues (w : World) (f f' : Flight) : Prop where
  ask : f'.ask = f.ask
  caller : f'.caller = f.caller
  said : f'.transcript = f.transcript ∨ ∃ x, f'.transcript = f.transcript ++ [x] ∧
    ∀ r, x = ⟨.act .registry, r⟩ → r = w.engine.publication.current

section

variable {v : Service} {first : Registry} {w w' : World} {i : Nat}

theorem step_flight (step : Step v w w') {f' : Flight} (found : w'.flights[i]? = some f')
    (begun : f'.transcript ≠ []) : ∃ f, w.flights[i]? = some f ∧ f.Steps w w' f' := by
  have turned : ∀ {j : Nat} {f g : Flight}, w.flights[j]? = some f → f.Steps w w' g →
      (w.flights.set j g)[i]? = some f' → ∃ f, w.flights[i]? = some f ∧ f.Steps w w' f' := by
    intro j f g there steps place
    rcases World.set_at there place with ⟨rfl, rfl⟩ | ⟨_, old⟩
    · exact ⟨f, there, steps⟩
    · exact ⟨f', old, .still f'⟩
  cases step with
  | arrives ask =>
      by_cases old : i < w.flights.length
      · rw [World.arrive, List.getElem?_append_left old] at found
        exact ⟨f', found, .still f'⟩
      · rw [World.arrive, List.getElem?_append_right (Nat.le_of_not_lt old)] at found
        cases List.mem_singleton.mp (List.mem_of_getElem? found)
        exact absurd rfl begun
  | @acts j f a next there live turn => exact turned there (.further f _ (.act a rfl)) found
  | answered there live turn given => exact turned there (.further _ _ (.wait _ _)) found
  | late there live turn => exact turned there (.further _ _ (.wait _ _)) found
  | cut there live turn => exact turned there (.further _ _ (.wait _ _)) found
  | drops there live => exact turned there (.dropped _) found
  | waits => exact ⟨f', found, .still f'⟩
  | fetched => exact ⟨f', found, .still f'⟩
  | recorded => exact ⟨f', found, .still f'⟩
  | reported => exact ⟨f', found, .still f'⟩
  | outside => exact ⟨f', found, .still f'⟩

theorem uttered_act {x : Exchange Question.Answer} (utters : Utters w w' x) {a : Act} {answer : a.Answer}
    (same : x = ⟨.act a, answer⟩) : answer = (w.engine.perform a).2 := by
  cases utters with
  | act b done =>
      cases same
      rfl
  | wait wait answer => cases same

theorem step_continues (step : Step v w w') {f' : Flight} (found : w'.flights[i]? = some f')
    (begun : f'.transcript ≠ []) : ∃ f, w.flights[i]? = some f ∧ Continues w f f' := by
  obtain ⟨f, there, steps⟩ := step_flight step found begun
  refine ⟨f, there, ?_⟩
  cases steps with
  | still => exact ⟨rfl, rfl, .inl rfl⟩
  | dropped => exact ⟨rfl, rfl, .inl rfl⟩
  | further rest utters => exact ⟨rfl, rfl, .inr ⟨_, rfl, fun r same => uttered_act utters same⟩⟩

-- The moment at which a request took its registry, which was the one served.
def TookCurrent (v : Service) (first : Registry) (w : World) (i : Nat) (f : Flight) (r : Registry) : Prop :=
  ∃ then' f₀, Reachable v first then' ∧ Became v then' w ∧ then'.engine.publication.current = r ∧
    then'.flights[i]? = some f₀ ∧ f₀.ask = f.ask ∧ f₀.caller = f.caller ∧ f₀.transcript = []

theorem took_current (reachable : Reachable v first w) {f : Flight} (there : w.flights[i]? = some f) {r : Registry}
    {more : Transcript} (began : f.transcript = ⟨.act .registry, r⟩ :: more) : TookCurrent v first w i f r := by
  induction reachable generalizing f more with
  | launched => cases there
  | @further v first w w' before step ih =>
      have begun : f.transcript ≠ [] := by simp [began]
      obtain ⟨g, place, continues⟩ := step_continues step there begun
      rcases continues.said with same | ⟨x, grown, taken⟩
      · obtain ⟨then', f₀, reached, became, current, found, ask, caller, silent⟩ := ih place (same.symm.trans began)
        exact ⟨then', f₀, reached, .later became step, current, found, continues.ask ▸ ask, continues.caller ▸ caller,
          silent⟩
      · cases said : g.transcript with
        | nil =>
            rw [said, began] at grown
            have same : r = w.engine.publication.current := taken r (List.cons.inj grown).1.symm
            exact ⟨w, g, before, .later (.still w) step, same.symm, place, continues.ask.symm, continues.caller.symm,
              said⟩
        | cons y earlier =>
            rw [said, began] at grown
            have head := (List.cons.inj grown).1
            obtain ⟨then', f₀, reached, became, current, found, ask, caller, silent⟩ := ih place (head ▸ said)
            exact ⟨then', f₀, reached, .later became step, current, found, continues.ask ▸ ask,
              continues.caller ▸ caller, silent⟩

end

-- The zone's own forecast with this registry, from a snapshot that was named and has this token.
def FromOne (setup : Setup) (r : Registry) (named : List NamedSnapshot) (horizon : Nat) (token : Token) (zone : String)
    (p : Prediction) : Prop :=
  ∃ s ∈ named, s.token = token ∧ ∃ now, alone setup r horizon s now zone = .ok p

-- Computed with one registry and for one token: a zone's own forecast, or the sum of those of all constituents.
def ComputedWith (setup : Setup) (r : Registry) (named : List NamedSnapshot) (zone : String) (horizon : Nat)
    (token : Token) (p : Prediction) : Prop :=
  match setup.catalog.get? zone with
  | none => FromOne setup r named horizon token zone p
  | some g => ∃ parts now,
      List.Forall₂ (fun m part => FromOne setup r named horizon token m.zone part.1 ∧ part.2 = m.weight)
        g.members parts ∧
      p = aggregate g.id horizon token setup.settings.combination parts now

-- A constituent answered something else than it was asked.
def Failure.IsMixup : Failure → Prop
  | .snapshotMismatch .. => True
  | .corruptModel _ reason => ∃ zone, reason = "received a prediction for zone " ++ zone
  | .constituent _ _ cause => cause.IsMixup
  | _ => False

theorem of_zone_no_mixup {f : Failure} (kind : f.OfZone) : ¬ f.IsMixup := by
  cases kind with
  | corrupt zone v rest =>
      rintro ⟨other, same⟩
      have letters := congrArg String.toList same
      rw [String.toList_append, String.toList_append] at letters
      have named : v.name.toList.head? = some 'b' ∨ v.name.toList.head? = some 'e' := by cases v <;> decide
      have said : "received a prediction for zone ".toList.head? = some 'r' := by decide
      have heads := congrArg List.head? letters
      rw [List.head?_append, List.head?_append, said] at heads
      rcases named with letter | letter <;> simp [letter] at heads
  | _ => exact id

theorem of_snapshot_no_mixup {f : Failure} (kind : f.OfSnapshot) : ¬ f.IsMixup := by
  cases kind <;> exact id

section

variable {setup : Setup} {r : Registry} {horizon : Nat} {s : NamedSnapshot} {zone : String}

theorem alone_no_mixup {now : Timestamp} {f : Failure} (failed : alone setup r horizon s now zone = fail f) :
    ¬ f.IsMixup :=
  of_zone_no_mixup (zone_forecast_of_zone failed)

theorem genuine_no_mixup {f : Failure} (genuine : Genuine setup r zone horizon s f) : ¬ f.IsMixup := by
  unfold Genuine at genuine
  split at genuine
  · obtain ⟨now, failed⟩ := genuine
    exact alone_no_mixup failed
  · obtain ⟨m, _, cause, now, failed, rfl⟩ := genuine
    have plain : ¬ cause.IsMixup := alone_no_mixup failed
    exact plain

theorem computed_aim {named : List NamedSnapshot} {token : Token} {p : Prediction} (flat : setup.catalog.Flat)
    (computed : ComputedWith setup r named zone horizon token p) :
    p.zone = zone ∧ p.horizon = horizon ∧ p.token = token ∧ p.isGroup = setup.catalog.contains zone := by
  unfold ComputedWith at computed
  cases found : setup.catalog.get? zone with
  | none =>
      rw [found] at computed
      obtain ⟨s, _, rfl, now, alone⟩ := computed
      obtain ⟨version, shares, rfl⟩ := zone_forecast_shape alone
      have real : setup.catalog.contains zone = false := by
        change (setup.catalog.get? zone).isSome = false
        rw [found]
        rfl
      exact ⟨rfl, rfl, rfl, real.symm⟩
  | some g =>
      rw [found] at computed
      obtain ⟨parts, now, _, rfl⟩ := computed
      have virtual : setup.catalog.contains zone = true := by
        change (setup.catalog.get? zone).isSome = true
        rw [found]
        rfl
      exact ⟨(flat.formed zone g found).named, rfl, rfl, virtual.symm⟩

-- A zone's own forecast also names the generation of its registry.
theorem computed_generation {named : List NamedSnapshot} {token : Token} {p : Prediction} {version : String}
    {generation : Nat} {shares : List ModelShare} (computed : ComputedWith setup r named zone horizon token p)
    (source : p.source = .models version generation shares) : generation = r.generation := by
  unfold ComputedWith at computed
  split at computed
  · obtain ⟨s, _, _, now, alone⟩ := computed
    obtain ⟨version', shares', rfl⟩ := zone_forecast_shape alone
    cases source
    rfl
  · obtain ⟨parts, now, _, rfl⟩ := computed
    cases source

end

section

variable {v : Service} {first : Registry} {w : World} {zone : String} {horizon : Nat}

theorem alone_from_one (numbered : Numbered first w) {r : Registry} (served : r ∈ w.history.published) {k : Key}
    (generation : r.generation = k.generation) {p : Prediction} (made : w.ledger.Alone v.setup k p) :
    FromOne v.setup r w.history.named k.horizon k.token k.zone p := by
  obtain ⟨r', served', s, known, generation', named, now, computed⟩ := made
  have same : r' = r := numbered_once numbered served' served (generation'.trans generation.symm)
  subst same
  exact ⟨s, known.1, named, now, computed⟩

theorem made_computed (numbered : Numbered first w) {r : Registry} (served : r ∈ w.history.published) {k : Key}
    (generation : r.generation = k.generation) {p : Prediction} (made : w.ledger.Made v.setup k p) :
    ComputedWith v.setup r w.history.named k.zone k.horizon k.token p := by
  unfold Ledger.Made at made
  unfold ComputedWith
  cases found : v.setup.catalog.get? k.zone with
  | none =>
      rw [found] at made
      exact alone_from_one numbered served generation made
  | some g =>
      rw [found] at made
      obtain ⟨parts, now, each, rfl⟩ := made
      refine ⟨parts, now, each.imp fun m part both => ⟨?_, both.2⟩, rfl⟩
      exact alone_from_one (k := k.member m) numbered served generation both.1

-- There is a registry behind whatever is stored, since a virtual zone has constituents.
theorem made_served (flat : v.setup.catalog.Flat) {k : Key} {p : Prediction} (made : w.ledger.Made v.setup k p) :
    ∃ r ∈ w.history.published, r.generation = k.generation := by
  unfold Ledger.Made at made
  split at made
  · obtain ⟨r, served, _, _, generation, _⟩ := made
    exact ⟨r, served, generation⟩
  · rename_i g found
    obtain ⟨parts, now, each, rfl⟩ := made
    have several := (flat.formed k.zone g found).several
    generalize g.members = members at several each
    cases each with
    | nil => simp at several
    | cons both _ =>
        obtain ⟨r, served, _, _, generation, _⟩ := both.1
        exact ⟨r, served, generation⟩

theorem stored_computed (reachable : Reachable v first w) (numbered : Numbered first w) {id : SlotId} {slot : Slot}
    {p : Prediction} {expires : Time.Instant} (there : w.engine.cache.slots[id]? = some slot)
    (ready : slot.content = .ready p expires) :
    ∃ r ∈ w.history.published, r.generation = slot.key.generation ∧
      ComputedWith v.setup r w.history.named slot.key.zone slot.key.horizon slot.key.token p := by
  have made := (reachable_sound reachable).engine.cache.stored id slot p expires there ready
  obtain ⟨r, served, generation⟩ := made_served (reachable_flat reachable) made
  exact ⟨r, served, generation, made_computed numbered served generation made⟩

variable {t : Transcript} {o : Options}

theorem base_no_mixup {r : Registry} {f : Failure} (founds : w.ledger.Founds v zone o r (fail f)) : ¬ f.IsMixup := by
  rcases founds_refused founds with late | ⟨f', same, kind | rfl⟩
  · cases late
  · cases same
    exact of_snapshot_no_mixup kind
  · cases same
    exact id

-- What of an operation without a value can come out, besides want of time and the end of the calendar.
theorem concludes_no_mixup {α : Type} {right : Registry → NamedSnapshot → Outcome α → Prop} {f : Failure}
    (concludes : w.ledger.Concludes v zone o right t (.error (.failed f)))
    (failing : ∀ r s f, right r s (.error (.failed f)) → ¬ f.IsMixup) : ¬ f.IsMixup := by
  obtain ⟨r, base, raw, _, founds, settles, halts, gives⟩ := concludes
  match raw with
  | .ok value => cases settles
  | .error .pastCalendar => cases settles
  | .error .outOfTime =>
      cases settles
      exact id
  | .error (.failed f') =>
      cases settles
      cases base with
      | ok s => exact failing r s f (gives s rfl)
      | error halt =>
          cases halts halt rfl
          exact base_no_mixup founds

-- A forecast that comes of one registry and one snapshot.
structure ComesFrom (v : Service) (w : World) (r : Registry) (s : NamedSnapshot) (zone : String) (horizon : Nat)
    (p : Prediction) : Prop where
  aim : p.zone = zone ∧ p.horizon = horizon ∧ p.token = s.token ∧ p.isGroup = v.setup.catalog.contains zone
  generation : ∀ version generation shares, p.source = .models version generation shares → generation = r.generation
  computed : ComputedWith v.setup r w.history.named zone horizon s.token p
  exact : w.Separate → ∀ now, Agree (.ok p) (uncached v.setup r zone horizon s now)

theorem comes_from (reachable : Reachable v first w) (counted : w.Counted first) {r : Registry} {s : NamedSnapshot}
    (founds : w.ledger.Founds v zone o r (.ok s)) {p : Prediction}
    (made : w.ledger.Made v.setup (keyOf r zone horizon s) p) : ComesFrom v w r s zone horizon p := by
  have computed : ComputedWith v.setup r w.history.named zone horizon s.token p :=
    made_computed (reachable_numbered reachable counted) founds.served rfl made
  refine ⟨computed_aim (reachable_flat reachable) computed, ?_, computed, fun separate now => ?_⟩
  · intro version generation shares source
    exact computed_generation computed source
  · have answers := answers_stored founds.served (founds_known founds) made
    exact answers.same (reachable_distinct reachable counted separate) (by simp) now

theorem predict_comes_from (reachable : Reachable v first w) (counted : w.Counted first) {p : Prediction}
    (answered : w.Answered (.predict zone horizon o) t (.ok p)) :
    ∃ r s, RestsOn v w zone o t r s ∧ ComesFrom v w r s zone horizon p := by
  obtain ⟨r, s, rests, founds, answers⟩ := concludes_ok (predict_concludes reachable answered)
  exact ⟨r, s, rests_on rests founds, comes_from reachable counted founds (answers.made p rfl)⟩

theorem trend_comes_from (reachable : Reachable v first w) (counted : w.Counted first) {horizons : List Nat}
    {ps : List Prediction} (answered : w.Answered (.trend zone horizons o) t (.ok ps)) :
    ∃ r s, RestsOn v w zone o t r s ∧ List.Forall₂ (fun horizon p => ComesFrom v w r s zone horizon p) horizons ps := by
  obtain ⟨r, s, rests, founds, answers⟩ := concludes_ok (trend_concludes reachable answered)
  refine ⟨r, s, rests_on rests founds, (answers.made ps rfl).imp fun horizon p made => ?_⟩
  exact comes_from reachable counted founds made

theorem status_comes_from (reachable : Reachable v first w) (counted : w.Counted first) {status : ZoneStatus}
    (answered : w.Answered (.status zone) t (.ok status)) {p : Prediction} (current : status.current = some p) :
    ∃ r s, RestsOn v w zone {} t r s ∧ ComesFrom v w r s zone v.setup.settings.statusHorizon p := by
  obtain ⟨r, s, rests, founds, answers⟩ := status_ok reachable answered current
  exact ⟨r, s, rests_on rests founds, comes_from reachable counted founds (answers.made p rfl)⟩

theorem predict_no_mixup (reachable : Reachable v first w) {f : Failure}
    (answered : w.Answered (.predict zone horizon o) t (fail f)) : ¬ f.IsMixup :=
  concludes_no_mixup (predict_concludes reachable answered) fun _ _ f answers => genuine_no_mixup (answers.failed f rfl)

theorem trend_no_mixup (reachable : Reachable v first w) {horizons : List Nat} {f : Failure}
    (answered : w.Answered (.trend zone horizons o) t (fail f)) : ¬ f.IsMixup := by
  refine concludes_no_mixup (trend_concludes reachable answered) fun _ _ f answers => ?_
  obtain ⟨_, _, genuine⟩ := answers.failed f rfl
  exact genuine_no_mixup genuine

theorem forecast_no_mixup {r : Registry} {base : Outcome NamedSnapshot} {f : Failure}
    (founds : w.ledger.Founds v zone o r base)
    (halts : ∀ halt, base = .error halt → (fail f : Outcome Prediction) = .error halt)
    (gives : ∀ s, base = .ok s → w.ledger.Answers v.setup r horizon s zone (fail f)) : ¬ f.IsMixup := by
  cases base with
  | error halt =>
      cases halts halt rfl
      exact base_no_mixup founds
  | ok s => exact genuine_no_mixup ((gives s rfl).failed f rfl)

theorem status_no_mixup (reachable : Reachable v first w) {out : Outcome ZoneStatus}
    (answered : w.Answered (.status zone) t out) :
    (∀ f, out = fail f → ¬ f.IsMixup) ∧ ∀ status text, out = .ok status → status.currentError = some text →
      ∃ f : Failure, text = f.message ∧ ¬ f.IsMixup := by
  obtain ⟨raw, ⟨r, base, rests, founds, pictures⟩, rfl⟩ :=
    answered_meets reachable answered (meets_status (reachable_flat reachable))
  rcases pictures with ⟨_, _, rfl⟩ | ⟨described, forecast, last, known, rfl, halts, gives⟩
  · refine ⟨fun f same => ?_, fun status text same => nomatch same⟩
    cases same
    exact id
  · refine ⟨fun f same => ?_, fun status text same shown => ?_⟩
    · match forecast with
      | .ok p => cases same
      | .error (.failed f) => cases same
      | .error .pastCalendar => cases same
      | .error .outOfTime =>
          cases same
          exact id
    · obtain ⟨f, rfl, rfl⟩ := status_error known (settled_ok same.symm).symm shown
      exact ⟨f, rfl, forecast_no_mixup founds halts gives⟩

/-- Whatever requests, refreshes and reloads go on at the same time: a request takes the registry that is served at
that moment, and what it answers comes of that registry and of one snapshot; what is stored under a key comes of the
one registry of its generation and of its snapshot; and no constituent ever answers something else than it was
asked. -/
theorem one_registry_one_snapshot (reachable : Reachable v first w) (counted : w.Counted first) :
    (∀ (i : Nat) (f : Flight) r more, w.flights[i]? = some f → f.transcript = ⟨.act .registry, r⟩ :: more →
      TookCurrent v first w i f r) ∧
    (∀ (id : SlotId) (slot : Slot) p expires, w.engine.cache.slots[id]? = some slot →
      slot.content = .ready p expires →
      (p.zone = slot.key.zone ∧ p.horizon = slot.key.horizon ∧ p.token = slot.key.token) ∧
      (p.isGroup = true ↔ v.setup.catalog.contains slot.key.zone = true) ∧
      ∃ r ∈ w.history.published, r.generation = slot.key.generation ∧
        (∀ r' ∈ w.history.published, r'.generation = slot.key.generation → r' = r) ∧
        ComputedWith v.setup r w.history.named slot.key.zone slot.key.horizon slot.key.token p) ∧
    (∀ zone horizon o t p, w.Answered (.predict zone horizon o) t (.ok p) →
      ∃ r s, RestsOn v w zone o t r s ∧ ComesFrom v w r s zone horizon p) ∧
    (∀ zone horizons o t ps, w.Answered (.trend zone horizons o) t (.ok ps) →
      ∃ r s, RestsOn v w zone o t r s ∧
        List.Forall₂ (fun horizon p => ComesFrom v w r s zone horizon p) horizons ps) ∧
    (∀ zone t status p, w.Answered (.status zone) t (.ok status) → status.current = some p →
      ∃ r s, RestsOn v w zone {} t r s ∧ ComesFrom v w r s zone v.setup.settings.statusHorizon p) ∧
    (∀ zone horizon o t f, w.Answered (.predict zone horizon o) t (fail f) → ¬ f.IsMixup) ∧
    (∀ zone horizons o t f, w.Answered (.trend zone horizons o) t (fail f) → ¬ f.IsMixup) ∧
    (∀ zone t f, w.Answered (.status zone) t (fail f) → ¬ f.IsMixup) ∧
    (∀ zone t status text, w.Answered (.status zone) t (.ok status) → status.currentError = some text →
      ∃ f : Failure, text = f.message ∧ ¬ f.IsMixup) := by
  have numbered := reachable_numbered reachable counted
  refine ⟨?_, ?_, ?_, ?_, ?_, ?_, ?_, ?_, ?_⟩
  · intro i f r more there began
    exact took_current reachable there began
  · intro id slot p expires there ready
    obtain ⟨r, served, generation, computed⟩ := stored_computed reachable numbered there ready
    obtain ⟨zone, hours, token, group⟩ := computed_aim (reachable_flat reachable) computed
    refine ⟨⟨zone, hours, token⟩, by rw [group], r, served, generation, fun r' served' same => ?_, computed⟩
    exact numbered_once numbered served' served (same.trans generation.symm)
  · intro zone horizon o t p answered
    exact predict_comes_from reachable counted answered
  · intro zone horizons o t ps answered
    exact trend_comes_from reachable counted answered
  · intro zone t status p answered current
    exact status_comes_from reachable counted answered current
  · intro zone horizon o t f answered
    exact predict_no_mixup reachable answered
  · intro zone horizons o t f answered
    exact trend_no_mixup reachable answered
  · intro zone t f answered
    exact (status_no_mixup reachable answered).1 f rfl
  · intro zone t status text answered shown
    exact (status_no_mixup reachable answered).2 status text rfl shown

end

namespace Sample

theorem served_provenance :
    (∃ (id : SlotId) (slot : Slot) (p : Prediction) (expires : Time.Instant) (r : Registry),
      served.engine.cache.slots[id]? = some slot ∧ slot.content = .ready p expires ∧ p.zone = slot.key.zone ∧
      r ∈ served.history.published ∧ r.generation = slot.key.generation ∧
      ComputedWith service.setup r served.history.named slot.key.zone slot.key.horizon slot.key.token p) ∧
    (∃ t p r s, served.Answered (.predict "LA_METRO" 24 pinned) t (.ok p) ∧
      RestsOn service served "LA_METRO" pinned t r s ∧ ComesFrom service served r s "LA_METRO" 24 p) ∧
    (∃ t p p' r s, served.Answered (.trend "LA_METRO" [24, 1] pinned) t (.ok [p, p']) ∧
      RestsOn service served "LA_METRO" pinned t r s ∧ ComesFrom service served r s "LA_METRO" 24 p ∧
      ComesFrom service served r s "LA_METRO" 1 p') ∧
    (∃ t status p r s, served.Answered (.status "LA_METRO") t (.ok status) ∧ status.current = some p ∧
      RestsOn service served "LA_METRO" {} t r s ∧
      ComesFrom service served r s "LA_METRO" service.setup.settings.statusHorizon p) := by
  obtain ⟨_, stored, point, series, state, _⟩ := one_registry_one_snapshot served_reachable served_counted
  obtain ⟨⟨⟨_, _, metro, _⟩, _⟩, _⟩ := evaluated
  refine ⟨?_, ?_, ?_, ?_⟩
  · obtain ⟨id, slot, p, expires, there, ready⟩ := served_ready
    obtain ⟨⟨zone, _⟩, _, r, member, generation, _, computed⟩ := stored id slot p expires there ready
    exact ⟨id, slot, p, expires, r, there, ready, zone, member, generation, computed⟩
  · obtain ⟨t, p, _, _, answered, _⟩ := served_points metro
    obtain ⟨r, s, rests, comes⟩ := point "LA_METRO" 24 pinned t p answered
    exact ⟨t, p, r, s, answered, rests, comes⟩
  · obtain ⟨t, ps, _, _, answered, _⟩ := served_series
    obtain ⟨r, s, rests, each⟩ := series "LA_METRO" [24, 1] pinned t ps answered
    obtain _ | ⟨here, _ | ⟨next, _ | _⟩⟩ := each
    exact ⟨t, _, _, r, s, answered, rests, here, next⟩
  · obtain ⟨t, status, p, _, _, answered, current, _⟩ := served_status
    obtain ⟨r, s, rests, comes⟩ := state "LA_METRO" t status p answered current
    exact ⟨t, status, p, r, s, answered, current, rests, comes⟩

end Sample

end GridLoad
