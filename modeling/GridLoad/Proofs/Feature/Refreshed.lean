import GridLoad.Proofs.Feature.Captured

/-!
One refresh after another. What has been started and not yet recorded is in flight, so that there is no second one
beside it, and what is recorded is what comes of it.
-/

set_option autoImplicit false

namespace GridLoad

open GridLoad.Time (Instant)

namespace RefreshPhase

def isPending : RefreshPhase → Bool
  | .fetching => true
  | .fetched _ => true
  | _ => false

-- What a refresh has recorded, reported or not.
def settled? : RefreshPhase → Option (Except Failure NamedSnapshot)
  | .recorded outcome => some outcome
  | .reported outcome => some outcome
  | _ => none

end RefreshPhase

namespace Captures

-- The snapshot that becomes current when a refresh is recorded.
def installs? (id : RefreshId) (c : Captures) : Option NamedSnapshot :=
  match c.refreshes[id]? with
  | some ⟨_, _, _, .fetched (.ok s)⟩ => some s
  | _ => none

structure Steady (c : Captures) : Prop where
  pending : ∀ (id : RefreshId) (r : Refresh), c.refreshes[id]? = some r → r.phase.isPending = true → c.inFlight = some id
  unsettled : ∀ (id : RefreshId) (r : Refresh), c.inFlight = some id → c.refreshes[id]? = some r →
    r.phase.settled? = none

-- What a step may do to the current snapshot and to the outcomes of refreshes: only what it installs is new.
structure Advances (c c' : Captures) (now : Instant) (installed : Option NamedSnapshot) : Prop where
  steady : c'.Steady
  current : c'.current = (installed.map fun s => ⟨s, now⟩).or c.current
  settled : ∀ (id : RefreshId) (r' : Refresh) (s : NamedSnapshot), c'.refreshes[id]? = some r' →
    r'.phase.settled? = some (.ok s) →
    installed = some s ∨ ∃ r, c.refreshes[id]? = some r ∧ r.phase.settled? = some (.ok s)
  grows : c.refreshes.length ≤ c'.refreshes.length

variable {c c' : Captures} {id : RefreshId} {now : Instant}

theorem steady_start (rules : CaptureRules) : Steady { rules := rules } where
  pending _ _ there := by simp at there
  unsettled _ _ flying := by cases flying

-- Where at most tokens change.
theorem beside_advances (steady : c.Steady) (current : c'.current = c.current) (inFlight : c'.inFlight = c.inFlight)
    (refreshes : c'.refreshes = c.refreshes) : c.Advances c' now none where
  steady :=
    { pending := by rw [inFlight, refreshes]; exact steady.pending
      unsettled := by rw [inFlight, refreshes]; exact steady.unsettled }
  current := by rw [current, Option.map_none, Option.none_or]
  settled id r' s there outcome := .inr ⟨r', refreshes ▸ there, outcome⟩
  grows := Nat.le_of_eq (by rw [refreshes])

theorem live_iff : c.live? = some id ↔ c.inFlight = some id ∧ ∃ r, c.refreshes[id]? = some r ∧ r.isLive = true := by
  simp [live?, Option.filter_eq_some_iff, Option.any_eq_true]

-- A refresh that is pending can be joined.
theorem pending_live (steady : c.Steady) {r : Refresh} (there : c.refreshes[id]? = some r)
    (pending : r.phase.isPending = true) : c.live? = some id := by
  refine live_iff.mpr ⟨steady.pending id r there pending, r, there, ?_⟩
  unfold RefreshPhase.isPending at pending
  unfold Refresh.isLive
  split at pending <;> simp_all

theorem started_refresh {since delay : Nat} {answer : Fetched} {r : Refresh}
    (there : (c.start since delay answer).1.refreshes[id]? = some r) :
    c.refreshes[id]? = some r ∨ id = c.refreshes.length ∧ r.phase = .fetching := by
  simp only [start] at there
  by_cases old : id < c.refreshes.length
  · rw [List.getElem?_append_left old] at there
    exact .inl there
  · rw [List.getElem?_append_right (Nat.le_of_not_lt old)] at there
    cases place : id - c.refreshes.length with
    | zero =>
        rw [place] at there
        cases there
        exact .inr ⟨Nat.le_antisymm (Nat.sub_eq_zero_iff_le.mp place) (Nat.le_of_not_lt old), rfl⟩
    | succ further =>
        rw [place] at there
        cases there

theorem start_advances (steady : c.Steady) (free : c.live? = none) (since delay : Nat) (answer : Fetched) :
    c.Advances (c.start since delay answer).1 now none where
  steady :=
    { pending := fun id r there pending => by
        rcases started_refresh there with old | ⟨rfl, _⟩
        · rw [pending_live steady old pending] at free
          cases free
        · rfl
      unsettled := fun id r flying there => by
        cases flying
        rcases started_refresh there with old | ⟨_, fetching⟩
        · rw [List.getElem?_eq_none (Nat.le_refl _)] at old
          cases old
        · rw [fetching]
          rfl }
  current := (Option.none_or).symm
  settled id r' s there outcome := by
    rcases started_refresh there with old | ⟨_, fetching⟩
    · exact .inr ⟨r', old, outcome⟩
    · rw [fetching] at outcome
      cases outcome
  grows := by simp [start]

theorem phase_there {phase : RefreshPhase} {other : RefreshId} {r : Refresh}
    (there : (c.setPhase id phase).refreshes[other]? = some r) :
    other = id ∧ r.phase = phase ∨ other ≠ id ∧ c.refreshes[other]? = some r := by
  simp only [setPhase, List.getElem?_modify] at there
  by_cases same : id = other
  · obtain ⟨old, _, rfl⟩ := Option.map_eq_some_iff.mp there
    exact .inl ⟨same.symm, by rw [if_pos same]⟩
  · simp only [same, if_false] at there
    exact .inr ⟨Ne.symm same, by simpa using there⟩

-- A refresh enters a phase that it can enter from where it is, and settles nothing.
theorem set_phase_advances {phase : RefreshPhase} (steady : c.Steady)
    (pending : phase.isPending = true → c.inFlight = some id)
    (settled : ∀ outcome, phase.settled? = some outcome →
      c.inFlight ≠ some id ∧ ∃ r, c.refreshes[id]? = some r ∧ r.phase.settled? = some outcome) :
    c.Advances (c.setPhase id phase) now none where
  steady :=
    { pending := fun other r there pending' => by
        rcases phase_there there with ⟨rfl, new⟩ | ⟨_, old⟩
        · exact pending (new ▸ pending')
        · exact steady.pending other r old pending'
      unsettled := fun other r flying there => by
        rcases phase_there there with ⟨rfl, new⟩ | ⟨_, old⟩
        · rw [new, Option.eq_none_iff_forall_ne_some]
          exact fun outcome given => (settled outcome given).1 flying
        · exact steady.unsettled other r flying old }
  current := (Option.none_or).symm
  settled other r' s there outcome := by
    rcases phase_there there with ⟨rfl, new⟩ | ⟨_, old⟩
    · exact .inr (settled _ (new ▸ outcome)).2
    · exact .inr ⟨r', old, outcome⟩
  grows := by simp [setPhase]

theorem advances_beside {installed : Option NamedSnapshot} {d : Captures} (advances : c.Advances c' now installed)
    (current : c.current = d.current) (refreshes : c.refreshes = d.refreshes) : d.Advances c' now installed where
  steady := advances.steady
  current := current ▸ advances.current
  settled := refreshes ▸ advances.settled
  grows := refreshes ▸ advances.grows

theorem end_fetch_advances (steady : c.Steady) (now : Instant) (id : RefreshId) :
    c.Advances (c.endFetch now id) now none := by
  unfold endFetch
  split
  · rename_i since due answer there
    have flying : c.inFlight = some id := steady.pending id _ there rfl
    cases answer with
    | snapshot s =>
        have pinned : (c.pin now (.of s)).Steady := ⟨steady.pending, steady.unsettled⟩
        exact advances_beside (set_phase_advances pinned (fun _ => flying) (by nofun)) rfl rfl
    | failed f => exact set_phase_advances steady (fun _ => flying) (by nofun)
    | broke => exact set_phase_advances steady (by nofun) (by nofun)
  · exact beside_advances steady rfl rfl rfl

-- What is recorded was the only one that was pending.
theorem record_advances (steady : c.Steady) (now : Instant) (id : RefreshId) :
    c.Advances (c.record now id) now (c.installs? id) := by
  unfold record installs?
  split
  · rename_i since due answer outcome there
    have flying : c.inFlight = some id := steady.pending id _ there rfl
    have others : ∀ (other : RefreshId) (r : Refresh),
        ({ c with inFlight := none }.setPhase id (.recorded outcome)).refreshes[other]? = some r →
        other = id ∧ r.phase = .recorded outcome ∨
          r.phase.isPending = false ∧ c.refreshes[other]? = some r := by
      intro other r there'
      rcases phase_there there' with here | ⟨apart, old⟩
      · exact .inl here
      · cases pending : r.phase.isPending with
        | false => exact .inr ⟨rfl, old⟩
        | true => exact absurd (Option.some.inj ((steady.pending other r old pending).symm.trans flying)) apart
    have calm : ({ c with inFlight := none }.setPhase id (.recorded outcome)).Steady := by
      refine ⟨fun other r there' pending => ?_, fun other r flying' => nomatch flying'⟩
      rcases others other r there' with ⟨_, new⟩ | ⟨none, _⟩
      · rw [new] at pending
        cases pending
      · rw [none] at pending
        cases pending
    have settles : ∀ (other : RefreshId) (r : Refresh) (s : NamedSnapshot),
        ({ c with inFlight := none }.setPhase id (.recorded outcome)).refreshes[other]? = some r →
        r.phase.settled? = some (.ok s) →
        outcome = .ok s ∨ ∃ r, c.refreshes[other]? = some r ∧ r.phase.settled? = some (.ok s) := by
      intro other r s there' given
      rcases others other r there' with ⟨_, new⟩ | ⟨_, old⟩
      · rw [new] at given
        exact .inl (Option.some.inj given)
      · exact .inr ⟨r, old, given⟩
    cases outcome with
    | ok s =>
        refine ⟨⟨calm.pending, calm.unsettled⟩, by rw [there]; rfl, fun other r s' there' given => ?_,
          by simp [setPhase]⟩
        rw [there]
        rcases settles other r s' there' given with new | old
        · cases new
          exact .inl rfl
        · exact .inr old
    | error f =>
        refine ⟨calm, by rw [there]; exact (Option.none_or).symm, fun other r s' there' given => ?_, by simp [setPhase]⟩
        rcases settles other r s' there' given with new | old
        · cases new
        · exact .inr old
  · rename_i other
    have none : (match c.refreshes[id]? with
        | some ⟨_, _, _, .fetched (.ok s)⟩ => some s
        | _ => none) = none := by
      split
      · rename_i since due answer s there
        exact absurd there (other _ _ _ _)
      · rfl
    rw [none]
    exact beside_advances steady rfl rfl rfl

theorem report_advances (steady : c.Steady) (id : RefreshId) : c.Advances (c.report id) now none := by
  unfold report
  split
  · rename_i since due answer outcome there
    refine set_phase_advances steady (by nofun) fun outcome' given => ⟨fun flying => ?_, _, there, given⟩
    cases steady.unsettled id _ flying there
  · exact beside_advances steady rfl rfl rfl

theorem died_advances (steady : c.Steady) (id : RefreshId) : c.Advances (c.setPhase id .died) now none :=
  set_phase_advances steady (by nofun) (by nofun)

-- Whoever asks for it is told of a refresh that is over.
theorem live_or_reported {r : Refresh} (there : c.refreshes[id]? = some r) :
    r.isLive = true ∨ ∃ report, c.report? id = some report := by
  unfold Refresh.isLive report?
  rw [there]
  obtain ⟨since, due, answer, phase⟩ := r
  cases phase with
  | reported outcome => exact .inr ⟨_, rfl⟩
  | died => exact .inr ⟨_, rfl⟩
  | _ => exact .inl rfl

theorem reported_settled {s : NamedSnapshot} (reported : c.report? id = some (.outcome (.ok s))) :
    ∃ r, c.refreshes[id]? = some r ∧ r.phase.settled? = some (.ok s) := by
  unfold report? at reported
  split at reported
  · rename_i since due answer outcome there
    cases reported
    exact ⟨_, there, rfl⟩
  · cases reported
  · cases reported

end Captures

end GridLoad
