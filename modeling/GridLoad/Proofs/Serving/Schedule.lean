import GridLoad.Proofs.Serving.Outcomes
import GridLoad.Sample

/-!
Steps in an order that is laid down beforehand. A move that cannot be made changes nothing, so that every schedule
leads from a reachable world to another.
-/

set_option autoImplicit false

namespace GridLoad

inductive Move where
  | arrive (ask : Ask)
  -- A request puts its next question, and waits where it has to.
  | go (i : Nat)
  -- A request gives up its wait.
  | cut (i : Nat)
  | fetched (id : RefreshId)
  | recorded (id : RefreshId)
  | reported (id : RefreshId)
  -- Time passes outside.
  | pass (nanos : Nat) (wall : Time.Timestamp)

namespace World

-- A request puts its next question.
def go (w : World) (i : Nat) (f : Flight) : World :=
  match f.rest with
  | .done _ => w
  | .ask (.act a) next =>
      let (e, answer) := w.engine.perform a
      w.exchange i f e ⟨.act a, answer⟩ (next answer)
  | .ask (.wait awaited) next =>
      let (e, answer?) := w.engine.attempt f.caller awaited
      match answer? with
      | some answer => w.exchange i f e ⟨.wait awaited, some answer⟩ (next (some answer))
      | none => { w with engine := e }

def cut (w : World) (i : Nat) (f : Flight) : World :=
  match f.rest with
  | .ask (.wait awaited) next => w.exchange i f (w.engine.giveUp f.caller awaited) ⟨.wait awaited, none⟩ (next none)
  | _ => w

def move (v : Service) (w : World) : Move → World
  | .arrive ask => w.arrive v ask
  | .go i =>
      match w.flights[i]? with
      | some f => if f.dropped then w else w.go i f
      | none => w
  | .cut i =>
      match w.flights[i]? with
      | some f => if f.dropped then w else w.cut i f
      | none => w
  | .fetched id => w.endFetch id
  | .recorded id => w.withCaptures (w.engine.captures.record w.engine.now id)
  | .reported id => w.withCaptures (w.engine.captures.report id)
  | .pass nanos wall =>
      { w with engine := { w.engine with clock := ⟨w.engine.clock.instant + nanos, w.engine.clock.millis, wall⟩ } }

def play (v : Service) (w : World) (moves : List Move) : World := moves.foldl (move v) w

end World

section

variable {v : Service} {r : Registry} {w : World} {i : Nat} {f : Flight}

theorem go_steps (there : w.flights[i]? = some f) (live : f.dropped = false) : w.go i f = w ∨ Step v w (w.go i f) := by
  unfold World.go
  split
  · exact .inl rfl
  · rename_i a next turn
    exact .inr (.acts there live turn)
  · rename_i awaited next turn
    simp only
    split
    · rename_i answer given
      exact .inr (.answered there live turn given)
    · rename_i pending
      exact .inr (.waits there live turn pending)

theorem cut_steps (there : w.flights[i]? = some f) (live : f.dropped = false) : w.cut i f = w ∨ Step v w (w.cut i f) := by
  unfold World.cut
  split
  · rename_i awaited next turn
    exact .inr (.cut there live turn)
  · exact .inl rfl

-- A move that can be made is a step.
theorem move_steps (m : Move) : w.move v m = w ∨ Step v w (w.move v m) := by
  cases m with
  | arrive ask => exact .inr (.arrives w ask)
  | go i =>
      simp only [World.move]
      split
      · rename_i f there
        split
        · exact .inl rfl
        · rename_i live
          exact go_steps there (by simpa using live)
      · exact .inl rfl
  | cut i =>
      simp only [World.move]
      split
      · rename_i f there
        split
        · exact .inl rfl
        · rename_i live
          exact cut_steps there (by simpa using live)
      · exact .inl rfl
  | fetched id => exact .inr (.fetched w id)
  | recorded id => exact .inr (.recorded w id)
  | reported id => exact .inr (.reported w id)
  | pass nanos wall => exact .inr (.outside w _ _ _ _ (Nat.le_add_right _ _))

theorem move_reachable (reachable : Reachable v r w) (m : Move) : Reachable v r (w.move v m) := by
  rcases move_steps (v := v) (w := w) m with same | step
  · rwa [same]
  · exact .further reachable step

theorem play_reachable (reachable : Reachable v r w) (moves : List Move) : Reachable v r (w.play v moves) := by
  induction moves generalizing w with
  | nil => exact reachable
  | cons m rest ih => exact ih (move_reachable reachable m)

end

-- A request has come to its end with an answer that passes a test.
def Flight.answers (ask : Ask) (test : ask.Answer → Bool) (f : Flight) : Bool :=
  if same : f.ask = ask then
    match f.rest with
    | .done value => test (same ▸ value)
    | .ask _ _ => false
  else false

def World.answers (w : World) (ask : Ask) (test : ask.Answer → Bool) : Bool := w.flights.any (Flight.answers ask test)

theorem flight_answers {f : Flight} {ask : Ask} {test : ask.Answer → Bool} (answers : f.answers ask test = true) :
    ∃ caller t value dropped, f = ⟨caller, ask, t, .done value, dropped⟩ ∧ test value = true := by
  obtain ⟨caller, ask', t, rest, dropped⟩ := f
  unfold Flight.answers at answers
  split at answers
  · rename_i same
    cases same
    cases rest with
    | done value => exact ⟨caller, t, value, dropped, rfl, answers⟩
    | ask question next => cases answers
  · cases answers

theorem answers_answered {w : World} {ask : Ask} {test : ask.Answer → Bool} (answers : w.answers ask test = true) :
    ∃ t value, w.Answered ask t value ∧ test value = true := by
  obtain ⟨f, member, passes⟩ := List.any_eq_true.mp answers
  obtain ⟨caller, t, value, dropped, rfl, holds⟩ := flight_answers passes
  exact ⟨t, value, ⟨caller, dropped, member⟩, holds⟩

theorem ok_of_to_bool {α : Type} {out : Outcome α} (ok : out.toBool = true) : ∃ value, out = .ok value := by
  cases out with
  | ok value => exact ⟨value, rfl⟩
  | error halt => cases ok

theorem launch_valid {setup : Setup} {r : Registry} {source : Source} {files : Files} {clock : Clock}
    (valid : setup.settings.validate = .ok ()) :
    launch setup r source files clock = .ok ((launch setup r source files clock).toOption.getD default) := by
  simp only [launch, valid, Except.toOption, Option.getD_some]

namespace Sample

open GridLoad.Time (Timestamp)

/-! The worked example as it is served: a forecast that has a snapshot fetched, and then the same and others for that
snapshot's token, by every way. -/

def morning : Timestamp := ⟨1720620000, 0⟩

def token : Token := (snapshot morning).token

def pinned : Options := { snapshot := some token }

def groups : Catalog := catalog.toOption.getD {}

def source : Source where
  name := "static"
  origin := .fixed (.ok (snapshot morning))

@[irreducible] def running (settings : Settings) (wall : Timestamp) : Running :=
  (launch ⟨settings, groups⟩ (registry 1) source .empty { wall := wall }).toOption.getD default

def played (settings : Settings) (wall : Timestamp) (moves : List Move) : World :=
  (World.first (registry 1) (running settings wall).engine).play (running settings wall).service moves

-- A first request, for which a snapshot is fetched.
def opening (ask : Ask) : List Move :=
  .arrive ask :: List.replicate 8 (.go 0) ++ [.fetched 0, .recorded 0, .reported 0] ++ List.replicate 40 (.go 0)

-- A later request, served to its end.
def later (i : Nat) (ask : Ask) : List Move := .arrive ask :: List.replicate 40 (.go i)

def get : Web.Request := { method := .get, target := "/v1/zones/LA_METRO/predict?horizon=24&snapshot=" ++ token }

def post : Web.Request where
  method := .post
  target := "/v1/zones/LA_METRO/predict"
  contentType := some "application/json"
  body := Text.toBytes (Web.Wanted.toJson ⟨24, pinned⟩).text

def getSingle : Web.Request := { method := .get, target := "/v1/zones/LA_METRO/trend?horizons=24&snapshot=" ++ token }

def asks : List Ask :=
  [.predict "SCE" 24 pinned, .predict "SP15" 24 pinned, .predict "LA_METRO" 24 pinned, .predict "LA_METRO" 1 pinned,
    .trend "LA_METRO" [24, 1] pinned, .status "LA_METRO", .web get, .web post, .web getSingle]

def service : Service := (running {} morning).service

@[irreducible] def served : World :=
  played {} morning
    (opening (.predict "LA_METRO" 24 {}) ++ (asks.zipIdx 1).flatMap fun ask => later ask.2 ask.1)

def strict : Settings := { captures := { freshness := .reject } }

def nextDay : Timestamp := ⟨morning.seconds + 86400, 0⟩

-- A service that refuses old snapshots, and a trend without horizons for such a one.
@[irreducible] def refused : World :=
  played strict nextDay (opening (.predict "SCE" 1 {}) ++ later 1 (.trend "SCE" [] pinned))

-- A status with a forecast for the token.
def shows : Outcome ZoneStatus → Bool
  | .ok status => status.current.any fun p => p.token = token
  | .error _ => false

def accepts : Outcome Web.Response → Bool
  | .ok response => response.status = 200
  | .error _ => false

def isStale : Outcome (List Prediction) → Bool
  | .error (.failed (.stale ..)) => true
  | _ => false

-- Whatever is evaluated of the example, at once, for the snapshot's token is to be computed once.
theorem evaluated :
    ((served.answers (.predict "SCE" 24 pinned) Except.toBool = true ∧
        served.answers (.predict "SP15" 24 pinned) Except.toBool = true ∧
        served.answers (.predict "LA_METRO" 24 pinned) Except.toBool = true ∧
        served.answers (.predict "LA_METRO" 1 pinned) Except.toBool = true) ∧
      (served.answers (.trend "LA_METRO" [24, 1] pinned) Except.toBool = true ∧
        served.answers (.status "LA_METRO") shows = true) ∧
      (served.answers (.web get) accepts = true ∧ served.answers (.web post) accepts = true ∧
        served.answers (.web getSingle) accepts = true) ∧
      (served.history.numbers = [] ∧ served.history.published.length = 1 ∧
        (∀ s ∈ served.history.named, s.snapshot = snapshot morning) ∧
        ∃ slot ∈ served.engine.cache.slots, (slot.content.value? 0).isSome = true) ∧
      (Web.Route.ofPath? get.path = some (.predict "LA_METRO") ∧
        Web.Route.ofPath? post.path = some (.predict "LA_METRO") ∧
        Web.Route.ofPath? getSingle.path = some (.trend "LA_METRO") ∧
        Web.segmentText? "LA_METRO" = some "LA_METRO") ∧
      (Web.pointQuery? get.query = some (some 24, some token) ∧
        Web.Wanted.ofBody? post.contentType post.body = some ⟨24, pinned⟩ ∧
        Web.trendQuery? getSingle.query = some ("24", some token) ∧ Web.horizonsOfText "24" = .ok [24])) ∧
    (refused.answers (.trend "SCE" [] pinned) isStale = true ∧ refused.history.numbers = [] ∧
      (∀ s ∈ refused.history.named, s.snapshot = snapshot morning) ∧
      isKnown groups (registry 1) "SCE" = true ∧
      (refused.engine.captures.pinned? token).any
        (fun kept => !refused.engine.captures.isExpired refused.engine.now kept) = true) ∧
    (Catalog.define [group] = .ok groups ∧ groups.get? "LA_METRO" = some group ∧
      ({} : Settings).validate = .ok () ∧ strict.validate = .ok ()) := by decide +kernel

theorem started {settings : Settings} (valid : settings.validate = .ok ()) (wall : Timestamp) :
    launch ⟨settings, groups⟩ (registry 1) source .empty { wall := wall } = .ok (running settings wall) := by
  unfold running
  exact launch_valid valid

theorem running_setup {settings : Settings} (valid : settings.validate = .ok ()) (wall : Timestamp) :
    (running settings wall).service.setup = ⟨settings, groups⟩ := by
  simp only [running, launch, valid, Except.toOption, Option.getD_some]

theorem played_reachable {settings : Settings} (valid : settings.validate = .ok ()) (wall : Timestamp)
    (moves : List Move) : Reachable (running settings wall).service (registry 1) (played settings wall moves) := by
  obtain ⟨_, _, accepted, _⟩ := evaluated
  exact play_reachable (.launched accepted (started valid wall)) moves

theorem served_reachable : Reachable service (registry 1) served := by
  obtain ⟨_, _, _, _, valid, _⟩ := evaluated
  unfold served
  exact played_reachable valid morning _

theorem served_setup : service.setup = ⟨{}, groups⟩ := by
  obtain ⟨_, _, _, _, valid, _⟩ := evaluated
  exact running_setup valid morning

theorem served_counted : served.Counted (registry 1) := by
  obtain ⟨⟨_, _, _, ⟨none, _⟩, _⟩, _⟩ := evaluated
  rw [World.Counted, none]
  decide

-- Where only one snapshot was ever named.
theorem separate_once {w : World} {s : Snapshot} (same : ∀ named ∈ w.history.named, named.snapshot = s) :
    w.Separate := by
  intro named member named' member' _
  rw [same named member, same named' member']

theorem served_separate : served.Separate := by
  obtain ⟨⟨_, _, _, ⟨_, _, same, _⟩, _⟩, _⟩ := evaluated
  exact separate_once same

-- The one registry that was ever served.
theorem served_once : ∃ r, ∀ r' ∈ served.history.published, r' = r := by
  obtain ⟨⟨_, _, _, ⟨_, one, _⟩, _⟩, _⟩ := evaluated
  obtain ⟨r, only⟩ := List.length_eq_one_iff.mp one
  exact ⟨r, fun r' member => by simpa [only] using member⟩

theorem served_ready : ∃ (id : SlotId) (slot : Slot) (p : Prediction) (expires : Time.Instant),
    served.engine.cache.slots[id]? = some slot ∧ slot.content = .ready p expires := by
  obtain ⟨⟨_, _, _, ⟨_, _, _, slot, member, full⟩, _⟩, _⟩ := evaluated
  obtain ⟨id, place⟩ := List.mem_iff_getElem?.mp member
  obtain ⟨p, value⟩ := Option.isSome_iff_exists.mp full
  obtain ⟨expires, ready⟩ := Cache.value_ready value
  exact ⟨id, slot, p, expires, place, ready⟩

theorem served_points {zone : String} {horizon : Nat}
    (answers : served.answers (.predict zone horizon pinned) Except.toBool = true) :
    ∃ t p r s, served.Answered (.predict zone horizon pinned) t (.ok p) ∧ RestsOn service served zone pinned t r s := by
  obtain ⟨t, out, answered, ok⟩ := answers_answered answers
  obtain ⟨p, rfl⟩ := ok_of_to_bool ok
  obtain ⟨r, s, rests, founds, _⟩ := concludes_ok (predict_concludes served_reachable answered)
  exact ⟨t, p, r, s, answered, rests_on rests founds⟩

theorem served_series : ∃ t ps r s, served.Answered (.trend "LA_METRO" [24, 1] pinned) t (.ok ps) ∧
    RestsOn service served "LA_METRO" pinned t r s := by
  obtain ⟨⟨_, ⟨series, _⟩, _⟩, _⟩ := evaluated
  obtain ⟨t, out, answered, ok⟩ := answers_answered series
  obtain ⟨ps, rfl⟩ := ok_of_to_bool ok
  obtain ⟨r, s, rests, founds, _⟩ := concludes_ok (trend_concludes served_reachable answered)
  exact ⟨t, ps, r, s, answered, rests_on rests founds⟩

theorem served_status : ∃ t status p r s, served.Answered (.status "LA_METRO") t (.ok status) ∧
    status.current = some p ∧ p.token = token ∧ RestsOn service served "LA_METRO" {} t r s := by
  obtain ⟨⟨_, ⟨_, shown⟩, _⟩, _⟩ := evaluated
  obtain ⟨t, out, answered, ok⟩ := answers_answered shown
  cases out with
  | ok status =>
      obtain ⟨p, current, named⟩ := (Option.any_eq_true _ _).mp ok
      obtain ⟨r, s, rests, founds, _⟩ := status_ok served_reachable answered current
      exact ⟨t, status, p, r, s, answered, current, by simpa using named, rests_on rests founds⟩
  | error halt => cases ok

end Sample

end GridLoad
