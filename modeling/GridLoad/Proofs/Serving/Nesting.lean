import GridLoad.Proofs.Group.Accepted
import GridLoad.Proofs.Serving.Ledger
import GridLoad.Proofs.Serving.Operated
import GridLoad.Serving.Lookup

/-!
Which slots a request has the locks of, and the order in which it takes them: none, that of a virtual zone, or that
of a virtual zone and then that of one of its constituents.
-/

set_option autoImplicit false

namespace GridLoad

open Program

-- The slots whose locks a request has, the last one first.
def holding (ids : List SlotId) : Exchange Question.Answer → List SlotId
  | ⟨.wait (.enter id), some .granted⟩ => id :: ids
  | ⟨.act (.leave id _), _⟩ => ids.erase id
  | _ => ids

def held (t : Transcript) : List SlotId := t.foldl holding []

theorem held_snoc (t : Transcript) (x : Exchange Question.Answer) : held (t ++ [x]) = holding (held t) x := by
  simp [held]

def Act.Leaves : Act → Prop
  | .leave _ _ => True
  | _ => False

def Wait.Enters : Wait → Prop
  | .enter _ => True
  | _ => False

theorem held_act {a : Act} (stays : ¬ a.Leaves) (t : Transcript) (answer : a.Answer) :
    held (t ++ [⟨.act a, answer⟩]) = held t := by
  rw [held_snoc]
  cases a <;> first | rfl | exact absurd trivial stays

theorem held_wait {w : Wait} (other : ¬ w.Enters) (t : Transcript) (answer : Option w.Answer) :
    held (t ++ [⟨.wait w, answer⟩]) = held t := by
  rw [held_snoc]
  cases w <;> first | rfl | exact absurd trivial other

theorem held_leave (t : Transcript) (id : SlotId) (computed : Option Prediction) :
    held (t ++ [⟨.act (.leave id computed), ()⟩]) = (held t).erase id := held_snoc t _

theorem held_granted (t : Transcript) (id : SlotId) :
    held (t ++ [⟨.wait (.enter id), some .granted⟩]) = id :: held t := held_snoc t _

theorem held_ungranted {t : Transcript} {id : SlotId} {answer : Option Entered} (ungranted : answer ≠ some .granted) :
    held (t ++ [⟨.wait (.enter id), answer⟩]) = held t := by
  rw [held_snoc]
  match answer with
  | none => rfl
  | some (.found _) => rfl
  | some .granted => exact absurd rfl ungranted

namespace Ledger

variable (Γ : Ledger) (setup : Setup)

def OfGroup (id : SlotId) : Prop := ∃ key g, Γ.key? id = some key ∧ setup.catalog.get? key.zone = some g

def OfZone (id : SlotId) : Prop := ∃ key, Γ.key? id = some key ∧ setup.catalog.get? key.zone = none

-- A lock is wanted by a request that has none, or has that of a virtual zone and wants that of a real one.
-- For anything else it waits only while it has none.
def Orders (t : Transcript) : Question → Prop
  | .act (.leave id _) => ∃ rest, held t = id :: rest ∧ id ∉ rest
  | .act _ => True
  | .wait (.enter id) => (∃ key, Γ.key? id = some key) ∧
      (held t = [] ∨ ∃ top, held t = [top] ∧ Γ.OfGroup setup top ∧ Γ.OfZone setup id)
  | .wait _ => held t = []

def nesting : Conduct Question.Answer := ⟨Γ.Vouches setup, Γ.Orders setup⟩

-- A part of a request that is begun with some locks in hand, and ends with the same.
def Balanced {α : Type} (ids : List SlotId) (p : Serve α) : Prop :=
  ∀ t, held t = ids → Meets (Γ.nesting setup) (fun u _ => held u = ids) p t

variable {Γ setup} {α β : Type} {ids : List SlotId}

theorem zone_not_group {id top : SlotId} (zone : Γ.OfZone setup id) (group : Γ.OfGroup setup top) : id ≠ top := by
  obtain ⟨key, there, real⟩ := zone
  obtain ⟨key', g, there', virtual⟩ := group
  intro same
  subst same
  cases there.symm.trans there'
  rw [real] at virtual
  cases virtual

theorem balanced_pure (value : α) : Γ.Balanced setup ids (pure value : Serve α) := fun _ same => same

theorem balanced_bind {p : Serve β} {f : β → Serve α} (first : Γ.Balanced setup ids p)
    (second : ∀ value, Γ.Balanced setup ids (f value)) : Γ.Balanced setup ids (p >>= f) := by
  intro t same
  exact meets_bind (first t same) fun u value => second value u

theorem balanced_act {a : Act} {f : a.Answer → Serve α} (stays : ¬ a.Leaves)
    (further : ∀ answer, Γ.Vouches setup (.act a) answer → Γ.Balanced setup ids (f answer)) :
    Γ.Balanced setup ids (act a >>= f) := by
  intro t same
  refine meets_first ?_ fun answer vouched => further answer vouched _ ((held_act stays t answer).trans same)
  cases a <;> first | trivial | exact absurd trivial stays

theorem balanced_wait {w : Wait} {f : Option w.Answer → Serve α} (other : ¬ w.Enters)
    (further : ∀ answer, Γ.Balanced setup [] (f answer)) : Γ.Balanced setup [] (wait w >>= f) := by
  intro t same
  refine meets_first ?_ fun answer _ => further answer _ ((held_wait other t answer).trans same)
  cases w <;> first | exact same | exact absurd trivial other

theorem balanced_each {ι : Type} {xs : List ι} {f : ι → Serve PUnit} (each : ∀ x, Γ.Balanced setup ids (f x)) :
    Γ.Balanced setup ids (xs.forM f) := by
  induction xs with
  | nil => exact balanced_pure _
  | cons x rest ih =>
      rw [List.forM_eq_forM, List.forM_cons]
      exact balanced_bind (each x) fun _ => ih

theorem balanced_note (event : Event) : Γ.Balanced setup ids (act (.note event)) :=
  balanced_act (f := pure) id fun _ _ => balanced_pure _

section Lookups

variable {r : Registry} {horizon : Nat} {s : NamedSnapshot} {zone : String}

-- A look-up by way of the cache is begun with no lock, or with that of a virtual zone for one of its constituents.
theorem balanced_cached {key : Key} {compute : Serve (Outcome Prediction)}
    (fits : ids = [] ∨ ∃ top, ids = [top] ∧ Γ.OfGroup setup top ∧ setup.catalog.get? key.zone = none)
    (inner : ∀ id, Γ.key? id = some key → Γ.Balanced setup (id :: ids) compute) :
    Γ.Balanced setup ids (cached key compute) := by
  refine balanced_act not_false fun id (owned : Γ.key? id = some key) => ?_
  have apart : id ∉ ids := by
    rcases fits with rfl | ⟨top, rfl, group, real⟩
    · simp
    · simpa using zone_not_group ⟨key, owned, real⟩ group
  intro t same
  refine meets_first ⟨⟨key, owned⟩, ?_⟩ fun entered _ => ?_
  · rcases fits with rfl | ⟨top, rfl, group, real⟩
    · exact .inl same
    · exact .inr ⟨top, same, group, key, owned, real⟩
  · match entered with
    | none => exact (held_ungranted (by simp)).trans same
    | some (.found p) => exact (held_ungranted (by simp)).trans same
    | some .granted =>
        refine meets_bind (inner id owned _ ((held_granted t id).trans (by rw [same]))) fun u out taken => ?_
        refine meets_first ⟨ids, taken, apart⟩ fun _ _ => ?_
        refine meets_pure ((held_leave u id _).trans ?_)
        rw [taken, List.erase_cons_head]

theorem balanced_compute_zone : Γ.Balanced setup ids (computeZone setup r zone horizon s) := by
  refine balanced_act not_false fun now _ => balanced_bind (balanced_each fun v => ?_) fun _ => balanced_pure _
  exact balanced_act (f := pure) not_false fun _ _ => balanced_pure _

theorem balanced_resolve_zone (fits : ids = [] ∨ ∃ top, ids = [top] ∧ Γ.OfGroup setup top)
    (real : setup.catalog.get? zone = none) : Γ.Balanced setup ids (resolveZone setup r horizon s zone) := by
  refine balanced_cached ?_ fun id _ => balanced_compute_zone
  rcases fits with none | ⟨top, same, group⟩
  · exact .inl none
  · exact .inr ⟨top, same, group, real⟩

theorem balanced_gather {g : Group} {ask : String → Serve (Outcome Prediction)} {members : List Member}
    (each : ∀ m ∈ members, Γ.Balanced setup ids (ask m.zone)) :
    Γ.Balanced setup ids (gather ask g horizon s.token members) := by
  induction members with
  | nil => exact balanced_pure _
  | cons m rest ih =>
      rw [gather]
      refine balanced_bind (each m List.mem_cons_self) fun out => ?_
      match out with
      | .error (.failed _) => exact balanced_pure _
      | .error .pastCalendar => exact balanced_pure _
      | .error .outOfTime => exact balanced_pure _
      | .ok p =>
          dsimp only
          split
          · exact balanced_pure _
          · exact balanced_bind (ih fun m' member => each m' (List.mem_cons_of_mem m member)) fun _ => balanced_pure _

theorem balanced_compute_group (flat : setup.catalog.Flat) {g : Group} (found : setup.catalog.get? zone = some g)
    {id : SlotId} {key : Key} (owned : Γ.key? id = some key) (aimed : key.zone = zone) :
    Γ.Balanced setup [id] (computeGroup setup r g horizon s) := by
  have group : Γ.OfGroup setup id := ⟨key, g, owned, aimed ▸ found⟩
  refine balanced_act not_false fun now _ => balanced_bind ?_ fun both => ?_
  · refine balanced_bind (balanced_gather fun m member => ?_) fun gathered => ?_
    · refine balanced_bind (balanced_resolve_zone (.inr ⟨id, rfl, group⟩) ?_) fun _ => balanced_pure _
      exact flat.flat zone g found m member
    · split <;> exact balanced_pure _
  · exact balanced_bind (balanced_each balanced_note) fun _ => balanced_pure _

theorem balanced_resolve (flat : setup.catalog.Flat) : Γ.Balanced setup [] (resolve setup r zone horizon s) := by
  unfold resolve
  cases found : setup.catalog.get? zone with
  | none => exact balanced_resolve_zone (.inl rfl) found
  | some g => exact balanced_cached (.inl rfl) fun id owned => balanced_compute_group flat found owned rfl

end Lookups

section Snapshots

theorem balanced_hand_out (s : NamedSnapshot) (sourceError : Option String) :
    Γ.Balanced setup ids (handOut s sourceError) :=
  balanced_act not_false fun _ _ => balanced_pure _

theorem balanced_current_snapshot (rules : CaptureRules) (sourceName : String) :
    Γ.Balanced setup [] (currentSnapshot rules sourceName) := by
  refine balanced_act not_false fun look _ => ?_
  match look with
  | .fresh s => exact balanced_hand_out s none
  | .refreshing id none =>
      refine balanced_wait not_false fun awaited => ?_
      match awaited with
      | none => exact balanced_pure _
      | some (.report (.outcome (.ok s))) => exact balanced_hand_out s none
      | some (.report (.outcome (.error _))) => exact balanced_pure _
      | some (.report .died) => exact balanced_pure _
      | some .late => exact balanced_pure _
  | .refreshing id (some previous) =>
      refine balanced_wait not_false fun awaited => ?_
      match awaited with
      | none => exact balanced_pure _
      | some (.report (.outcome (.ok s))) => exact balanced_hand_out s none
      | some (.report (.outcome (.error failure))) => exact balanced_hand_out previous _
      | some (.report .died) => exact balanced_hand_out previous _
      | some .late => exact balanced_hand_out previous _

theorem balanced_pinned_snapshot (token : Token) : Γ.Balanced setup ids (pinnedSnapshot token) := by
  refine balanced_act not_false fun found _ => ?_
  match found with
  | none => exact balanced_pure _
  | some (_, false) => exact balanced_pure _
  | some (_, true) => exact balanced_act not_false fun _ _ => balanced_pure _

theorem balanced_check_freshness (rules : CaptureRules) (s : NamedSnapshot) :
    Γ.Balanced setup ids (checkFreshness rules s) := by
  refine balanced_act not_false fun now _ => ?_
  split
  · exact balanced_pure _
  · refine balanced_act not_false fun _ _ => ?_
    split <;> exact balanced_pure _

theorem balanced_base_snapshot (sourceName : String) (token : Option Token) :
    Γ.Balanced setup [] (baseSnapshot setup sourceName token) := by
  cases token with
  | some token => exact balanced_pinned_snapshot token
  | none =>
      refine balanced_bind (balanced_current_snapshot _ sourceName) fun served => ?_
      cases sourceFinding served with
      | some finding => exact balanced_act not_false fun _ _ => balanced_pure _
      | none => exact balanced_pure _

theorem balanced_snapshot_for (sourceName zone : String) (o : Options) :
    Γ.Balanced setup [] (snapshotFor setup sourceName zone o) := by
  refine balanced_bind (balanced_base_snapshot sourceName o.snapshot) fun base => ?_
  cases base with
  | error halt => exact balanced_pure _
  | ok base =>
      refine balanced_bind (balanced_check_freshness _ base) fun checked => ?_
      cases checked with
      | error halt => exact balanced_pure _
      | ok _ =>
          refine balanced_bind ?_ fun _ => balanced_pure _
          unfold deriveSnapshot
          split
          · exact balanced_pure _
          · exact balanced_act not_false fun _ _ => balanced_pure _

end Snapshots

section Operations

variable {v : Service}

theorem balanced_bounded {operation : String} {body : Serve (Outcome α)} (met : Γ.Balanced setup ids body) :
    Γ.Balanced setup ids (bounded setup operation body) := by
  refine balanced_bind met fun out => ?_
  match out with
  | .ok value => exact balanced_act not_false fun _ _ => balanced_pure _
  | .error .pastCalendar => exact balanced_pure _
  | .error (.failed failure) => exact balanced_act not_false fun _ _ => balanced_act not_false fun _ _ => balanced_pure _
  | .error .outOfTime => exact balanced_act not_false fun _ _ => balanced_act not_false fun _ _ => balanced_pure _

-- Forecasts and trends: the registry and a snapshot are taken before anything is looked up.
theorem balanced_on_basis (zone : String) (o : Options) {further : Registry → NamedSnapshot → Serve (Outcome α)}
    (met : ∀ r s, Γ.Balanced v.setup [] (further r s)) : Γ.Balanced v.setup [] (v.onBasis zone o further) := by
  refine balanced_bind (balanced_act not_false fun r _ => ?_) fun both => ?_
  · split
    · exact balanced_pure _
    · exact balanced_bind (balanced_snapshot_for v.sourceName zone o) fun _ => balanced_pure _
  · obtain ⟨r, base⟩ := both
    cases base with
    | error halt => exact balanced_pure _
    | ok s => exact met r s

theorem balanced_predict (flat : v.setup.catalog.Flat) (zone : String) (horizon : Nat) (o : Options) :
    Γ.Balanced v.setup [] (v.predict zone horizon o) := by
  rw [predict_on_basis]
  refine balanced_bounded (balanced_on_basis zone o fun r s => ?_)
  refine balanced_bind (balanced_resolve flat) fun out => ?_
  cases out with
  | error halt => exact balanced_pure _
  | ok c => exact balanced_act not_false fun _ _ => balanced_pure _

theorem balanced_series (flat : setup.catalog.Flat) (r : Registry) (zone : String) (s : NamedSnapshot)
    (horizons : List Nat) : Γ.Balanced setup [] (Service.series setup r zone s horizons) := by
  induction horizons with
  | nil => exact balanced_pure _
  | cons horizon rest ih =>
      rw [Service.series]
      refine balanced_bind (balanced_resolve flat) fun out => ?_
      cases out with
      | error halt => exact balanced_pure _
      | ok c => exact balanced_act not_false fun _ _ => balanced_bind ih fun _ => balanced_pure _

theorem balanced_trend (flat : v.setup.catalog.Flat) (zone : String) (horizons : List Nat) (o : Options) :
    Γ.Balanced v.setup [] (v.trend zone horizons o) := by
  rw [trend_on_basis]
  exact balanced_bounded (balanced_on_basis zone o fun r s => balanced_series flat r zone s horizons)

theorem balanced_status (flat : v.setup.catalog.Flat) (zone : String) : Γ.Balanced v.setup [] (v.status zone) := by
  refine balanced_bounded (balanced_act not_false fun r _ => ?_)
  split
  · exact balanced_pure _
  · refine balanced_bind ?_ fun out => ?_
    · refine balanced_bind (balanced_snapshot_for v.sourceName zone {}) fun base => ?_
      cases base with
      | error halt => exact balanced_pure _
      | ok s => exact balanced_resolve flat
    · match out with
      | .ok c => exact balanced_act not_false fun _ _ => balanced_act not_false fun _ _ => balanced_pure _
      | .error (.failed failure) => exact balanced_act not_false fun _ _ => balanced_pure _
      | .error .pastCalendar => exact balanced_pure _
      | .error .outOfTime => exact balanced_pure _

theorem balanced_announce (r : Registry) : Γ.Balanced setup ids (Service.announce r) := by
  refine balanced_act not_false fun _ _ => balanced_bind (balanced_each balanced_note) fun _ => ?_
  exact balanced_act (f := pure) not_false fun _ _ => balanced_pure _

theorem balanced_replace_registry (previous : Registry) (root : Path) :
    Γ.Balanced setup [] (Service.replaceRegistry previous root) := by
  refine balanced_act not_false fun generation _ => balanced_wait not_false fun read => ?_
  match read with
  | none => exact balanced_pure _
  | some (.error reason) => exact balanced_act not_false fun _ _ => balanced_act not_false fun _ _ => balanced_pure _
  | some (.ok loaded) =>
      refine balanced_act not_false fun _ _ => balanced_act not_false fun r _ => balanced_act not_false fun _ _ => ?_
      refine balanced_act not_false fun dropped _ => balanced_bind (balanced_announce r) fun _ => ?_
      exact balanced_act not_false fun _ _ => balanced_act not_false fun _ _ => balanced_pure _

theorem balanced_reload : Γ.Balanced setup [] Service.reload := by
  refine balanced_wait not_false fun turn => ?_
  cases turn with
  | none => exact balanced_pure _
  | some _ =>
      refine balanced_act not_false fun previous _ => ?_
      cases previous.root with
      | none => exact balanced_act not_false fun _ _ => balanced_pure _
      | some root =>
          refine balanced_bind (balanced_replace_registry previous root) fun _ => ?_
          exact balanced_act not_false fun _ _ => balanced_pure _

theorem balanced_operation (flat : v.setup.catalog.Flat) (op : Operation) :
    Γ.Balanced v.setup [] (op.program v) := by
  cases op with
  | predict zone horizon options => exact balanced_predict flat zone horizon options
  | trend zone horizons options => exact balanced_trend flat zone horizons options
  | status zone => exact balanced_status flat zone
  | reload => exact balanced_reload

theorem balanced_ask (flat : v.setup.catalog.Flat) (ask : Ask) :
    Meets (Γ.nesting v.setup) (fun u _ => held u = []) (ask.program v) [] := by
  refine ask_meets ask (fun op => balanced_operation flat op [] rfl) (fun t q _ aside => ?_) ?_ rfl
  · unfold Question.Aside at aside
    split at aside <;> first | exact trivial | exact absurd aside id
  · intro t q answer same aside
    cases q with
    | wait => exact absurd aside id
    | act a =>
        refine (held_act (fun leaves => ?_) t answer).trans same
        cases a <;> first | exact leaves | exact aside

end Operations

end Ledger

end GridLoad
