import GridLoad.Proofs.Serving.Operated

/-!
What each part of a request asks for: a snapshot is had from the store alone, a look-up goes to the cache alone, and
only a reload asks for the registry to be replaced.
-/

set_option autoImplicit false

namespace GridLoad

open Program

namespace Question

-- The current snapshot is had without a look at one that is kept.
def OfCurrent : Question → Prop
  | .act .look => True
  | .act (.pin _) => True
  | .act .wallTime => True
  | .act (.note (.stale ..)) => True
  | .wait (.refreshed _ _) => True
  | _ => False

-- A look at the current snapshot, or at one that is kept, says nothing yet of the source.
def OfCapture : Question → Prop
  | .act .look => True
  | .act (.pin _) => True
  | .act (.pinned _) => True
  | .act (.forget _) => True
  | .act .wallTime => True
  | .act (.note (.stale ..)) => True
  | .wait (.refreshed _ _) => True
  | _ => False

def OfStore : Question → Prop
  | .act .look => True
  | .act (.pin _) => True
  | .act (.pinned _) => True
  | .act (.forget _) => True
  | .act .wallTime => True
  | .act (.note (.stale ..)) => True
  | .act (.find _ _) => True
  | .wait (.refreshed _ _) => True
  | _ => False

def OfLookup : Question → Prop
  | .act (.slot _) => True
  | .act (.leave _ _) => True
  | .act .wallTime => True
  | .act (.note _) => True
  | .act (.count _) => True
  | .wait (.enter _) => True
  | _ => False

def OfReload : Question → Prop
  | .act .endReload => True
  | .act .generation => True
  | .act (.publish _) => True
  | .act (.retain _) => True
  | .act (.gauge _) => True
  | .wait .reloadTurn => True
  | .wait (.models _ _) => True
  | _ => False

def Ordinary (q : Question) : Prop := ¬ q.OfReload

-- All that a reload asks for.
def OfReplacement : Question → Prop
  | .act .registry => True
  | .act (.note _) => True
  | .act (.count _) => True
  | .act (.find _ _) => True
  | q => q.OfReload

theorem current_capture (q : Question) (kind : q.OfCurrent) : q.OfCapture := by
  unfold OfCurrent at kind
  split at kind <;> first | exact trivial | exact absurd kind id

theorem capture_store (q : Question) (kind : q.OfCapture) : q.OfStore := by
  unfold OfCapture at kind
  split at kind <;> first | exact trivial | exact absurd kind id

theorem current_store (q : Question) (kind : q.OfCurrent) : q.OfStore := capture_store q (current_capture q kind)

theorem store_ordinary (q : Question) (kind : q.OfStore) : q.Ordinary := by
  unfold Ordinary OfReload
  split <;> first | exact id | cases kind

theorem lookup_ordinary (q : Question) (kind : q.OfLookup) : q.Ordinary := by
  unfold Ordinary OfReload
  split <;> first | exact id | cases kind

theorem aside_ordinary (q : Question) (kind : q.Aside) : q.Ordinary := by
  unfold Ordinary OfReload
  split <;> first | exact id | cases kind

end Question

open Question

section Lookups

variable {setup : Setup} {r : Registry} {horizon : Nat} {s : NamedSnapshot} {zone : String}

theorem asks_cached {key : Key} {compute : Serve (Outcome Prediction)} (inner : Asks OfLookup compute) :
    Asks OfLookup (cached key compute) := by
  refine asks_act trivial fun id => asks_wait trivial fun entered => ?_
  match entered with
  | none => exact asks_pure _
  | some (.found p) => exact asks_pure _
  | some .granted => exact asks_bind inner fun out => asks_act trivial fun _ => asks_pure _

theorem asks_resolve_zone : Asks OfLookup (resolveZone setup r horizon s zone) := by
  refine asks_cached (asks_act trivial fun now => asks_bind (asks_each fun v => ?_) fun _ => asks_pure _)
  exact asks_question trivial

theorem asks_gather {g : Group} {ask : String → Serve (Outcome Prediction)} {members : List Member}
    (each : ∀ zone, Asks OfLookup (ask zone)) : Asks OfLookup (gather ask g horizon s.token members) := by
  induction members with
  | nil => exact asks_pure _
  | cons m rest ih =>
      rw [gather]
      refine asks_bind (each m.zone) fun out => ?_
      match out with
      | .error (.failed _) => exact asks_pure _
      | .error .pastCalendar => exact asks_pure _
      | .error .outOfTime => exact asks_pure _
      | .ok p =>
          dsimp only
          split
          · exact asks_pure _
          · exact asks_bind ih fun _ => asks_pure _

theorem asks_compute_group {g : Group} : Asks OfLookup (computeGroup setup r g horizon s) := by
  refine asks_act trivial fun now => asks_bind ?_ fun both => ?_
  · refine asks_bind (asks_gather fun zone => asks_bind asks_resolve_zone fun _ => asks_pure _) fun gathered => ?_
    split <;> exact asks_pure _
  · exact asks_bind (asks_each fun event => asks_question trivial) fun _ => asks_pure _

theorem asks_resolve : Asks OfLookup (resolve setup r zone horizon s) := by
  unfold resolve
  split
  · exact asks_resolve_zone
  · exact asks_cached asks_compute_group

end Lookups

section Snapshots

variable {setup : Setup}

theorem asks_hand_out (s : NamedSnapshot) (sourceError : Option String) : Asks OfCurrent (handOut s sourceError) :=
  asks_act trivial fun _ => asks_pure _

theorem asks_current_snapshot (rules : CaptureRules) (sourceName : String) :
    Asks OfCurrent (currentSnapshot rules sourceName) := by
  refine asks_act trivial fun look => ?_
  match look with
  | .fresh s => exact asks_hand_out s none
  | .refreshing id none =>
      refine asks_wait trivial fun awaited => ?_
      match awaited with
      | none => exact asks_pure _
      | some (.report (.outcome (.ok s))) => exact asks_hand_out s none
      | some (.report (.outcome (.error _))) => exact asks_pure _
      | some (.report .died) => exact asks_pure _
      | some .late => exact asks_pure _
  | .refreshing id (some previous) =>
      refine asks_wait trivial fun awaited => ?_
      match awaited with
      | none => exact asks_pure _
      | some (.report (.outcome (.ok s))) => exact asks_hand_out s none
      | some (.report (.outcome (.error _))) => exact asks_hand_out previous _
      | some (.report .died) => exact asks_hand_out previous _
      | some .late => exact asks_hand_out previous _

theorem asks_pinned_snapshot (token : Token) : Asks OfCapture (pinnedSnapshot token) := by
  refine asks_act trivial fun found => ?_
  match found with
  | none => exact asks_pure _
  | some (_, false) => exact asks_pure _
  | some (_, true) => exact asks_act trivial fun _ => asks_pure _

theorem asks_base_snapshot (sourceName : String) (token : Option Token) :
    Asks OfStore (baseSnapshot setup sourceName token) := by
  cases token with
  | some token => exact asks_weaken (asks_pinned_snapshot token) capture_store
  | none =>
      refine asks_bind (asks_weaken (asks_current_snapshot _ sourceName) current_store) fun served => ?_
      cases sourceFinding served with
      | some finding => exact asks_act trivial fun _ => asks_pure _
      | none => exact asks_pure _

theorem asks_check_freshness (rules : CaptureRules) (s : NamedSnapshot) : Asks OfCurrent (checkFreshness rules s) := by
  refine asks_act trivial fun now => ?_
  split
  · exact asks_pure _
  · refine asks_act trivial fun _ => ?_
    split <;> exact asks_pure _

theorem asks_derive_snapshot (s : NamedSnapshot) (zones : List String) (overrides : Values) :
    Asks OfCurrent (deriveSnapshot s zones overrides) := by
  unfold deriveSnapshot
  split
  · exact asks_pure _
  · exact asks_act trivial fun _ => asks_pure _

theorem asks_snapshot_for (sourceName zone : String) (o : Options) :
    Asks OfStore (snapshotFor setup sourceName zone o) := by
  refine asks_bind (asks_base_snapshot sourceName o.snapshot) fun base => ?_
  cases base with
  | error halt => exact asks_pure _
  | ok base =>
      refine asks_bind (asks_weaken (asks_check_freshness _ base) current_store) fun checked => ?_
      cases checked with
      | error halt => exact asks_pure _
      | ok _ => exact asks_bind (asks_weaken (asks_derive_snapshot base _ _) current_store) fun _ => asks_pure _

end Snapshots

section Reloads

theorem asks_announce (r : Registry) : Asks OfReplacement (Service.announce r) :=
  asks_act trivial fun _ => asks_bind (asks_each fun _ => asks_question trivial) fun _ => asks_question trivial

theorem asks_replace_registry (previous : Registry) (root : Path) :
    Asks OfReplacement (Service.replaceRegistry previous root) := by
  refine asks_act trivial fun generation => asks_wait trivial fun loaded => ?_
  match loaded with
  | none => exact asks_pure _
  | some (.error reason) => exact asks_act trivial fun _ => asks_act trivial fun _ => asks_pure _
  | some (.ok loaded) =>
      refine asks_act trivial fun _ => asks_act trivial fun r => asks_act trivial fun _ => asks_act trivial fun dropped => ?_
      exact asks_bind (asks_announce r) fun _ => asks_act trivial fun _ => asks_act trivial fun _ => asks_pure _

theorem asks_reload : Asks OfReplacement Service.reload := by
  refine asks_wait trivial fun turn => ?_
  cases turn with
  | none => exact asks_pure _
  | some _ =>
      have ends : ∀ out : Outcome ReloadReport, Asks OfReplacement (act .endReload >>= fun _ => pure out) :=
        fun out => asks_act trivial fun _ => asks_pure _
      refine asks_act trivial fun previous => ?_
      dsimp only
      cases previous.root with
      | none => exact ends _
      | some root => exact asks_bind (asks_replace_registry previous root) ends

end Reloads

section Operations

variable {v : Service} {α : Type}

theorem resolve_ordinary {setup : Setup} {r : Registry} {zone : String} {horizon : Nat} {s : NamedSnapshot} :
    Asks Ordinary (resolve setup r zone horizon s) := asks_weaken asks_resolve lookup_ordinary

theorem snapshot_ordinary (sourceName zone : String) (o : Options) :
    Asks Ordinary (snapshotFor v.setup sourceName zone o) :=
  asks_weaken (asks_snapshot_for sourceName zone o) store_ordinary

theorem bounded_ordinary {operation : String} {body : Serve (Outcome α)} (asks : Asks Ordinary body) :
    Asks Ordinary (bounded v.setup operation body) := by
  refine asks_bind asks fun out => ?_
  match out with
  | .ok value => exact asks_act id fun _ => asks_pure _
  | .error .pastCalendar => exact asks_pure _
  | .error (.failed failure) => exact asks_act id fun _ => asks_act id fun _ => asks_pure _
  | .error .outOfTime => exact asks_act id fun _ => asks_act id fun _ => asks_pure _

-- Forecasts and trends: the registry and a snapshot, and what is made of them.
theorem on_basis_ordinary (zone : String) (o : Options) {further : Registry → NamedSnapshot → Serve (Outcome α)}
    (asks : ∀ r s, Asks Ordinary (further r s)) : Asks Ordinary (v.onBasis zone o further) := by
  refine asks_bind (asks_act id fun r => ?_) fun both => ?_
  · split
    · exact asks_pure _
    · exact asks_bind (snapshot_ordinary v.sourceName zone o) fun _ => asks_pure _
  · obtain ⟨r, base⟩ := both
    cases base with
    | error halt => exact asks_pure _
    | ok s => exact asks r s

theorem predict_ordinary (zone : String) (horizon : Nat) (o : Options) : Asks Ordinary (v.predict zone horizon o) := by
  rw [predict_on_basis]
  refine bounded_ordinary (on_basis_ordinary zone o fun r s => asks_bind resolve_ordinary fun out => ?_)
  cases out with
  | error halt => exact asks_pure _
  | ok c => exact asks_act id fun _ => asks_pure _

theorem series_ordinary (r : Registry) (zone : String) (s : NamedSnapshot) (horizons : List Nat) :
    Asks Ordinary (Service.series v.setup r zone s horizons) := by
  induction horizons with
  | nil => exact asks_pure _
  | cons horizon rest ih =>
      rw [Service.series]
      refine asks_bind resolve_ordinary fun out => ?_
      cases out with
      | error halt => exact asks_pure _
      | ok c => exact asks_act id fun _ => asks_bind ih fun _ => asks_pure _

theorem trend_ordinary (zone : String) (horizons : List Nat) (o : Options) : Asks Ordinary (v.trend zone horizons o) := by
  rw [trend_on_basis]
  exact bounded_ordinary (on_basis_ordinary zone o fun r s => series_ordinary r zone s horizons)

theorem status_ordinary (zone : String) : Asks Ordinary (v.status zone) := by
  refine bounded_ordinary (asks_act id fun r => ?_)
  split
  · exact asks_pure _
  · refine asks_bind ?_ fun out => ?_
    · refine asks_bind (snapshot_ordinary v.sourceName zone {}) fun base => ?_
      cases base with
      | error halt => exact asks_pure _
      | ok s => exact resolve_ordinary
    · match out with
      | .ok c => exact asks_act id fun _ => asks_act id fun _ => asks_pure _
      | .error (.failed failure) => exact asks_act id fun _ => asks_pure _
      | .error .pastCalendar => exact asks_pure _
      | .error .outOfTime => exact asks_pure _

end Operations

-- A web request for a reload.
def Web.Request.Reloads (request : Web.Request) : Prop :=
  Web.Route.ofPath? request.path = some .reload ∧ request.method = .post

theorem web_reload_program {v : Service} {request : Web.Request} (reloads : request.Reloads) :
    Web.Api.answer v request =
      Service.reload >>= fun out => pure (Web.respond ReloadReport.toJson out) := by
  obtain ⟨route, method⟩ := reloads
  simp [Web.Api.answer, route, method, Web.Route.allows, Web.Api.serve]

-- A request is a reload, with an answer made of its outcome, or it leaves the registry alone.
theorem program_kind (v : Service) (ask : Ask) :
    (∃ answer : Outcome ReloadReport → ask.Answer, ask.program v = Service.reload >>= fun out => pure (answer out)) ∨
      Asks Ordinary (ask.program v) := by
  have carries := carries_ask v ask
  generalize ask.operation? = op? at carries
  cases carries with
  | nothing aside => exact .inr (asks_weaken aside aside_ordinary)
  | out op f same =>
      cases op with
      | reload => exact .inl ⟨f, same⟩
      | predict zone horizon options =>
          exact .inr (same ▸ asks_bind (predict_ordinary zone horizon options) fun _ => asks_pure _)
      | trend zone horizons options =>
          exact .inr (same ▸ asks_bind (trend_ordinary zone horizons options) fun _ => asks_pure _)
      | status zone => exact .inr (same ▸ asks_bind (status_ordinary zone) fun _ => asks_pure _)

end GridLoad
