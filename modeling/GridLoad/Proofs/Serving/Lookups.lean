import GridLoad.Proofs.Forecast.SameText
import GridLoad.Proofs.Group.Accepted
import GridLoad.Proofs.Group.Gathered
import GridLoad.Proofs.Serving.Ledger
import GridLoad.Serving.Lookup

/-!
What comes of a look-up by way of the cache, whatever was stored before and whoever computes at the same time.
-/

set_option autoImplicit false

namespace GridLoad

open GridLoad.Time (Timestamp)
open Program

def alone (setup : Setup) (r : Registry) (horizon : Nat) (s : NamedSnapshot) (now : Timestamp) (zone : String) :
    Outcome Prediction :=
  (zoneForecast setup.settings.confidenceLevel r zone horizon s now).outcome

-- A failure of the zone itself, or of one of its constituents, with this registry and this snapshot.
def Genuine (setup : Setup) (r : Registry) (zone : String) (horizon : Nat) (s : NamedSnapshot) (f : Failure) : Prop :=
  match setup.catalog.get? zone with
  | none => ∃ now, alone setup r horizon s now zone = fail f
  | some g => ∃ m ∈ g.members, ∃ cause now,
      alone setup r horizon s now m.zone = fail cause ∧ f = .constituent g.id m.zone cause

theorem early_map {α β : Type} {f : α → β} {out : Outcome α} : out.map f ≠ .error .outOfTime ↔ out ≠ .error .outOfTime := by
  cases out <;> simp [Except.map]

namespace Ledger

variable (Γ : Ledger) (setup : Setup) (r : Registry) (horizon : Nat) (s : NamedSnapshot)

structure Answers (zone : String) (out : Outcome Prediction) : Prop where
  made : ∀ p, out = .ok p → Γ.Made setup (keyOf r zone horizon s) p
  failed : ∀ f, out = .error (.failed f) → Genuine setup r zone horizon s f
  same : Γ.Distinct → out ≠ .error .outOfTime → ∀ now, Agree out (uncached setup r zone horizon s now)

-- The same for a real zone, or for one that is asked as a constituent.
structure AnswersAlone (zone : String) (out : Outcome Prediction) : Prop where
  made : ∀ p, out = .ok p → Γ.Alone setup (keyOf r zone horizon s) p
  failed : ∀ f, out = .error (.failed f) → ∃ now, alone setup r horizon s now zone = fail f
  same : Γ.Distinct → out ≠ .error .outOfTime → ∀ now, Agree out (alone setup r horizon s now zone)

structure Collects (g : Group) (members : List Member) (out : Outcome (List (Prediction × Float))) : Prop where
  made : ∀ parts, out = .ok parts → List.Forall₂
    (fun m part => Γ.Alone setup (keyOf r m.zone horizon s) part.1 ∧ part.2 = m.weight) members parts
  failed : ∀ f, out = .error (.failed f) → ∃ m ∈ members, ∃ cause now,
    alone setup r horizon s now m.zone = fail cause ∧ f = .constituent g.id m.zone cause
  same : Γ.Distinct → out ≠ .error .outOfTime → ∀ now, SameGathering out
    (gather (m := Id) (alone setup r horizon s now) g horizon s.token members).outcome

variable {Γ setup r horizon s}

theorem alone_aim {k : Key} {p : Prediction} (made : Γ.Alone setup k p) :
    p.zone = k.zone ∧ p.horizon = k.horizon ∧ p.token = k.token := by
  obtain ⟨r, _, s, _, _, named, now, computed⟩ := made
  obtain ⟨version, shares, rfl⟩ := zone_forecast_shape computed
  exact ⟨rfl, rfl, named⟩

-- With numbers and tokens that are given once, what was computed under a key is what its registry and its
-- snapshot give.
theorem alone_same {zone : String} {p : Prediction} (distinct : Γ.Distinct) (served : r ∈ Γ.published)
    (known : Γ.Knows s) (made : Γ.Alone setup (keyOf r zone horizon s) p) (now : Timestamp) :
    Agree (.ok p) (alone setup r horizon s now zone) := by
  obtain ⟨r', served', s', known', generation, named, then', computed⟩ := made
  have same : r' = r := distinct.registries r' served' r served generation
  subst same
  have text := distinct.tokens s' known' s known named
  have agree := zone_forecast_same_text setup.settings.confidenceLevel r' zone horizon named text then' now
  rw [show (zoneForecast setup.settings.confidenceLevel r' zone horizon s' then').outcome = .ok p from computed] at agree
  exact agree

theorem alone_later (zone : String) (now later : Timestamp) :
    Agree (alone setup r horizon s now zone) (alone setup r horizon s later zone) :=
  zone_forecast_same_text setup.settings.confidenceLevel r zone horizon rfl rfl now later

theorem answers_computed {zone : String} (served : r ∈ Γ.published) (known : Γ.Knows s) (now : Timestamp) :
    Γ.AnswersAlone setup r horizon s zone (alone setup r horizon s now zone) where
  made _ computed := ⟨r, served, s, known, rfl, rfl, now, computed⟩
  failed _ failed := ⟨now, failed⟩
  same _ _ later := alone_later zone now later

theorem answers_found {zone : String} {p : Prediction} (served : r ∈ Γ.published) (known : Γ.Knows s)
    (made : Γ.Alone setup (keyOf r zone horizon s) p) : Γ.AnswersAlone setup r horizon s zone (.ok p) where
  made _ same := Except.ok.inj same ▸ made
  failed _ failed := nomatch failed
  same distinct _ now := alone_same distinct served known made now

theorem answers_alone_late {zone : String} : Γ.AnswersAlone setup r horizon s zone (.error .outOfTime) where
  made _ same := nomatch same
  failed _ failed := by cases failed
  same _ inTime := absurd rfl inTime

theorem answers_late {zone : String} : Γ.Answers setup r horizon s zone (.error .outOfTime) where
  made _ same := nomatch same
  failed _ failed := by cases failed
  same _ inTime := absurd rfl inTime

theorem collects_nothing {g : Group} : Γ.Collects setup r horizon s g [] (.ok []) where
  made parts same := by
    cases same
    exact .nil
  failed _ failed := nomatch failed
  same _ _ _ := .parts .nil

theorem collects_halt {g : Group} {m : Member} {rest : List Member} {halt : Halt} (plain : ∀ f, halt ≠ .failed f)
    (first : Γ.AnswersAlone setup r horizon s m.zone (.error halt)) :
    Γ.Collects setup r horizon s g (m :: rest) (.error halt) where
  made _ same := nomatch same
  failed f failed := absurd (Except.error.inj failed) (plain f)
  same distinct inTime now := by
    have early : halt ≠ .outOfTime := fun late => inTime (late ▸ rfl)
    have here := agree_error_iff.mp (agree_symm (first.same distinct (by simpa using early) now))
    rw [gather_alone_halted here plain]
    exact .halt halt

theorem collects_failure {g : Group} {m : Member} {rest : List Member} {cause : Failure}
    (first : Γ.AnswersAlone setup r horizon s m.zone (fail cause)) :
    Γ.Collects setup r horizon s g (m :: rest) (fail (.constituent g.id m.zone cause)) where
  made _ same := nomatch same
  failed f failed := by
    obtain ⟨now, here⟩ := first.failed cause rfl
    cases failed
    exact ⟨m, by simp, cause, now, here, rfl⟩
  same distinct _ now := by
    have here := agree_error_iff.mp (agree_symm (first.same distinct (by simp [fail]) now))
    rw [gather_alone_failed here]
    exact .halt _

-- What a constituent answers is what it was asked, so that the check of it passes.
theorem alone_fits {g : Group} {m : Member} {p : Prediction}
    (made : Γ.Alone setup (keyOf r m.zone horizon s) p) : checkMember g horizon s.token m p = .ok () := by
  obtain ⟨zone, hours, token⟩ := alone_aim made
  exact check_member_accepts zone token hours

theorem collects_more {g : Group} {m : Member} {rest : List Member} {p : Prediction}
    {others : Outcome (List (Prediction × Float))}
    (first : Γ.AnswersAlone setup r horizon s m.zone (.ok p)) (later : Γ.Collects setup r horizon s g rest others) :
    Γ.Collects setup r horizon s g (m :: rest) (others.map ((p, m.weight) :: ·)) where
  made parts same := by
    cases others with
    | error halt => cases same
    | ok tail =>
        cases same
        exact .cons ⟨first.made p rfl, rfl⟩ (later.made tail rfl)
  failed f failed := by
    cases others with
    | ok tail => cases failed
    | error halt =>
        cases failed
        obtain ⟨m', member, rest⟩ := later.failed f rfl
        exact ⟨m', by simp [member], rest⟩
  same distinct inTime now := by
    have early := early_map.mp inTime
    obtain ⟨q, here, same⟩ := agree_ok_iff.mp (agree_symm (first.same distinct (by simp) now))
    have fits : checkMember g horizon s.token m q = .ok () :=
      (check_member_undated g horizon s.token m same).trans (alone_fits (first.made p rfl))
    rw [gather_alone_ok here fits]
    exact same_gathering_map (later.same distinct early now) same.symm

end Ledger

open Ledger

section

variable {Γ : Ledger} {setup : Setup} {α : Type} {post : Transcript → α → Prop} {t : Transcript}

theorem meets_act {a : Act} {f : a.Answer → Serve α} (kept : Γ.Allows setup t (.act a))
    (further : ∀ answer, Γ.Vouches setup (.act a) answer →
      Meets (Γ.conduct setup) post (f answer) (t ++ [⟨.act a, answer⟩])) :
    Meets (Γ.conduct setup) post (act a >>= f) t := ⟨kept, further⟩

theorem meets_wait {w : Wait} {f : Option w.Answer → Serve α}
    (further : ∀ answer, Γ.Vouches setup (.wait w) answer →
      Meets (Γ.conduct setup) post (f answer) (t ++ [⟨.wait w, answer⟩])) :
    Meets (Γ.conduct setup) post (wait w >>= f) t := ⟨trivial, further⟩

end

section

variable {Γ : Ledger} {setup : Setup} {r : Registry} {horizon : Nat} {s : NamedSnapshot} {zone : String}

theorem meets_cached {key : Key} {compute : Serve (Outcome Prediction)} {right : Outcome Prediction → Prop}
    (computed : ∀ t, Meets (Γ.conduct setup) (fun _ out => right out) compute t)
    (stored : ∀ p, right (.ok p) → Γ.Made setup key p) (found : ∀ p, Γ.Made setup key p → right (.ok p))
    (late : right (.error .outOfTime)) (t : Transcript) :
    Meets (Γ.conduct setup) (fun _ out => right (out.map (·.prediction))) (cached key compute) t := by
  refine meets_act trivial fun slot owned => meets_wait fun entered entry => ?_
  match entered, entry with
  | none, _ => exact late
  | some (.found p), entry =>
      obtain ⟨key', owned', made⟩ := entry
      have same : key' = key := Option.some.inj (owned'.symm.trans owned)
      exact found p (same ▸ made)
  | some .granted, _ =>
      refine meets_bind (computed _) fun u out right' => meets_act ?_ fun _ _ => ?_
      · intro p made
        cases out with
        | error halt => cases made
        | ok q =>
            cases made
            exact ⟨key, owned, stored _ right'⟩
      · cases out with
        | error halt => exact right'
        | ok q => exact right'

theorem meets_compute_zone (served : r ∈ Γ.published) (known : Γ.Knows s) (zone : String) (t : Transcript) :
    Meets (Γ.conduct setup) (fun _ out => Γ.AnswersAlone setup r horizon s zone out)
      (computeZone setup r zone horizon s) t := by
  refine meets_act trivial fun now _ => ?_
  refine meets_bind (meets_each (fun v u => ?_) _) fun _ _ _ => answers_computed served known now
  exact ⟨trivial, fun _ _ => trivial⟩

theorem meets_resolve_zone (served : r ∈ Γ.published) (known : Γ.Knows s) {zone : String}
    (real : setup.catalog.get? zone = none) (t : Transcript) :
    Meets (Γ.conduct setup) (fun _ out => Γ.AnswersAlone setup r horizon s zone (out.map (·.prediction)))
      (resolveZone setup r horizon s zone) t := by
  have plain : ∀ p, Γ.Made setup (keyOf r zone horizon s) p ↔ Γ.Alone setup (keyOf r zone horizon s) p := by
    intro p
    simp only [Made, keyOf, real]
  refine meets_cached (meets_compute_zone served known zone) ?_ ?_ answers_alone_late t
  · intro p answers
    exact (plain p).mpr (answers.made p rfl)
  · intro p made
    exact answers_found served known ((plain p).mp made)

-- How a virtual zone asks one of its constituents.
def askMember (setup : Setup) (r : Registry) (horizon : Nat) (s : NamedSnapshot) (zone : String) :
    Serve (Outcome Prediction) := do
  let outcome ← resolveZone setup r horizon s zone
  pure (outcome.map (·.prediction))

theorem meets_ask_member (served : r ∈ Γ.published) (known : Γ.Knows s) {zone : String}
    (real : setup.catalog.get? zone = none) (t : Transcript) :
    Meets (Γ.conduct setup) (fun _ out => Γ.AnswersAlone setup r horizon s zone out)
      (askMember setup r horizon s zone) t :=
  meets_bind (meets_resolve_zone served known real t) fun _ _ answers => answers

theorem meets_gather (served : r ∈ Γ.published) (known : Γ.Knows s) {g : Group} {members : List Member}
    (real : ∀ m ∈ members, setup.catalog.get? m.zone = none) (t : Transcript) :
    Meets (Γ.conduct setup) (fun _ gathered => Γ.Collects setup r horizon s g members gathered.outcome)
      (gather (askMember setup r horizon s) g horizon s.token members) t := by
  induction members generalizing t with
  | nil => exact collects_nothing
  | cons m rest ih =>
      rw [gather]
      refine meets_bind (meets_ask_member served known (real m (by simp)) t) fun u out answers => ?_
      cases out with
      | error halt =>
          cases halt with
          | failed cause => exact collects_failure answers
          | pastCalendar => exact collects_halt (by simp) answers
          | outOfTime => exact collects_halt (by simp) answers
      | ok p =>
          have fits := alone_fits (g := g) (answers.made p rfl)
          simp only [fits]
          refine meets_bind (ih (fun m' member => real m' (by simp [member])) u) fun _ others later => ?_
          exact collects_more answers later

theorem agree_group {g : Group} (found : setup.catalog.get? zone = some g) (now then' : Timestamp)
    {out : Outcome (List (Prediction × Float))}
    (same : SameGathering out
      (gather (m := Id) (alone setup r horizon s now) g horizon s.token g.members).outcome) :
    Agree (sumUp setup.settings.combination g horizon s.token then' out) (uncached setup r zone horizon s now) := by
  simp only [uncached, found]
  change Agree _ (groupForecast (m := Id) setup.settings.combination (alone setup r horizon s now) g horizon
    s.token now).1
  rw [group_forecast_alone]
  exact sum_up_agree same

theorem answers_group {g : Group} (found : setup.catalog.get? zone = some g)
    (now : Timestamp) {out : Outcome (List (Prediction × Float))}
    (collected : Γ.Collects setup r horizon s g g.members out) :
    Γ.Answers setup r horizon s zone (sumUp setup.settings.combination g horizon s.token now out) where
  made p summed := by
    cases out with
    | error halt => cases summed
    | ok parts =>
        cases summed
        simp only [Made, keyOf, found]
        exact ⟨parts, now, collected.made parts rfl, rfl⟩
  failed f failed := by
    cases out with
    | ok parts => cases failed
    | error halt =>
        cases failed
        simp only [Genuine, found]
        exact collected.failed f rfl
  same distinct inTime later := by
    exact agree_group found later now (collected.same distinct (early_map.mp inTime) later)

theorem collects_found (served : r ∈ Γ.published) (known : Γ.Knows s) {g : Group} {members : List Member}
    {parts : List (Prediction × Float)} (made : List.Forall₂
      (fun m part => Γ.Alone setup (keyOf r m.zone horizon s) part.1 ∧ part.2 = m.weight) members parts) :
    Γ.Collects setup r horizon s g members (.ok parts) := by
  induction made with
  | nil => exact collects_nothing
  | @cons m part rest others both _ ih =>
      obtain ⟨p, weight⟩ := part
      obtain ⟨first, rfl⟩ := both
      exact collects_more (answers_found served known first) ih

theorem answers_group_found (served : r ∈ Γ.published) (known : Γ.Knows s) {g : Group}
    (found : setup.catalog.get? zone = some g) {p : Prediction}
    (made : Γ.Made setup (keyOf r zone horizon s) p) : Γ.Answers setup r horizon s zone (.ok p) := by
  simp only [Made, keyOf, found] at made
  obtain ⟨parts, now, each, rfl⟩ := made
  exact answers_group found now (collects_found served known each)

theorem meets_group_forecast (served : r ∈ Γ.published) (known : Γ.Knows s) (flat : setup.catalog.Flat) {g : Group}
    (found : setup.catalog.get? zone = some g) (now : Timestamp) (t : Transcript) :
    Meets (Γ.conduct setup) (fun _ both => Γ.Answers setup r horizon s zone both.1)
      (groupForecast setup.settings.combination (askMember setup r horizon s) g horizon s.token now) t := by
  refine meets_bind (meets_gather served known (flat.flat zone g found) t) fun u gathered collected => ?_
  have answers := answers_group found now collected
  cases out : gathered.outcome with
  | error halt =>
      rw [out] at answers
      exact answers
  | ok parts =>
      rw [out] at answers
      exact answers

theorem meets_compute_group (served : r ∈ Γ.published) (known : Γ.Knows s) (flat : setup.catalog.Flat) {g : Group}
    (found : setup.catalog.get? zone = some g) (t : Transcript) :
    Meets (Γ.conduct setup) (fun _ out => Γ.Answers setup r horizon s zone out)
      (computeGroup setup r g horizon s) t := by
  refine meets_act trivial fun now _ => ?_
  refine meets_bind (meets_group_forecast served known flat found now _) fun u both answers => ?_
  refine meets_bind (meets_each (fun event v => ?_) u) fun _ _ _ => answers
  exact ⟨trivial, fun _ _ => trivial⟩

theorem answers_alone (real : setup.catalog.get? zone = none) {out : Outcome Prediction}
    (answers : Γ.AnswersAlone setup r horizon s zone out) : Γ.Answers setup r horizon s zone out where
  made p same := by
    simp only [Made, keyOf, real]
    exact answers.made p same
  failed f failed := by
    simp only [Genuine, real]
    exact answers.failed f failed
  same distinct inTime now := by
    simp only [uncached, real]
    exact answers.same distinct inTime now

theorem answers_stored (served : r ∈ Γ.published) (known : Γ.Knows s) {p : Prediction}
    (made : Γ.Made setup (keyOf r zone horizon s) p) : Γ.Answers setup r horizon s zone (.ok p) := by
  cases found : setup.catalog.get? zone with
  | some g => exact answers_group_found served known found made
  | none =>
      simp only [Made, keyOf, found] at made
      exact answers_alone found (answers_found served known made)

-- The one path from a zone to a value.
theorem meets_resolve (served : r ∈ Γ.published) (known : Γ.Knows s) (flat : setup.catalog.Flat) (t : Transcript) :
    Meets (Γ.conduct setup) (fun _ out => Γ.Answers setup r horizon s zone (out.map (·.prediction)))
      (resolve setup r zone horizon s) t := by
  unfold resolve
  cases found : setup.catalog.get? zone with
  | none => exact meets_weaken (meets_resolve_zone served known found t) fun _ _ answers => answers_alone found answers
  | some g =>
      refine meets_cached (meets_compute_group served known flat found) ?_ ?_ ?_ t
      · intro p answers
        exact answers.made p rfl
      · intro p made
        exact answers_stored served known made
      · exact answers_late

end

end GridLoad
