import Mathlib.Logic.Relation
import GridLoad.Proofs.Serving.Schedule
import GridLoad.Proofs.Serving.Store

/-!
How the current snapshot is refreshed, with any number of calls and refreshes under way. There is one fetch at a time,
what has become current stays until something else does, and nobody who comes later is given anything older.
-/

set_option autoImplicit false

namespace GridLoad

open GridLoad.Time (Instant)
open Relation (ReflTransGen)

-- What has become current, in order.
def installs (log : StoreLog) : List NamedSnapshot :=
  log.filterMap fun e => match e.2 with
    | .installed s => some s
    | _ => none

-- When the call began, no more than so many snapshots had become current.
def BegunBy (log : StoreLog) (i n : Nat) : Prop :=
  ∀ (b : Nat) (t : Instant), log[b]? = some (t, .began i) → (installs (log.take b)).length ≤ n

-- Something that was current when the call began, or has become so since.
def Offers (log : StoreLog) (i : Nat) (s : NamedSnapshot) : Prop :=
  ∃ j, (installs log)[j]? = some s ∧ BegunBy log i (j + 1)

section

variable {log more : StoreLog} {i n : Nat} {s : NamedSnapshot}

theorem installs_append : installs (log ++ more) = installs log ++ installs more := List.filterMap_append

theorem installs_take (log : StoreLog) (b : Nat) : (installs (log.take b)).length ≤ (installs log).length :=
  ((List.take_sublist b log).filterMap _).length_le

theorem begun_by_all (log : StoreLog) (i : Nat) : BegunBy log i (installs log).length := fun b _ _ => installs_take log b

theorem begun_by_weaken {m : Nat} (begun : BegunBy log i n) (order : n ≤ m) : BegunBy log i m :=
  fun b t there => Nat.le_trans (begun b t there) order

theorem begun_by_later (begun : BegunBy log i n) (other : ∀ t, (t, .began i) ∉ more) : BegunBy (log ++ more) i n := by
  intro b t there
  by_cases old : b < log.length
  · rw [List.getElem?_append_left old] at there
    rw [List.take_append_of_le_length (Nat.le_of_lt old)]
    exact begun b t there
  · rw [List.getElem?_append_right (Nat.le_of_not_lt old)] at there
    exact absurd (List.mem_of_getElem? there) (other t)

theorem offers_later (offers : Offers log i s) (other : ∀ t, (t, .began i) ∉ more) : Offers (log ++ more) i s := by
  obtain ⟨j, there, begun⟩ := offers
  refine ⟨j, ?_, begun_by_later begun other⟩
  rw [installs_append, List.getElem?_append_left (List.getElem?_eq_some_iff.mp there).1]
  exact there

-- What becomes current now has become so since any call began.
theorem offers_installed (installed : installs more = [s]) (other : ∀ t, (t, .began i) ∉ more) :
    Offers (log ++ more) i s := by
  refine ⟨(installs log).length, by simp [installs_append, installed], ?_⟩
  exact begun_by_weaken (begun_by_later (begun_by_all log i) other) (Nat.le_succ _)

-- And so is what is current now.
theorem offers_last (last : (installs log).getLast? = some s) : Offers log i s := by
  obtain ⟨before, split⟩ := List.getLast?_eq_some_iff.mp last
  refine ⟨before.length, by simp [split], ?_⟩
  have all := begun_by_all log i
  rwa [split, List.length_append] at all

end

namespace Store

variable {rules : CaptureRules} {sourceName : String} {w w' : Store} {i : Nat} {f : StoreCall}

-- What is known of a call wherever it is.
def Follows (c : Captures) (log : StoreLog) (i : Nat) : Point → Prop
  | .looks => True
  | .awaits id previous =>
      id < c.refreshes.length ∧ (∀ s, previous = some s → Offers log i s) ∧ (previous = none → BegunBy log i 0) ∧
        ∀ r s, c.refreshes[id]? = some r → r.phase.settled? = some (.ok s) → Offers log i s
  | .serves s _ => Offers log i s
  | .ended _ => True

structure Ordered (rules : CaptureRules) (sourceName : String) (w : Store) : Prop where
  steady : w.captures.Steady
  current : w.captures.current.map (·.named) = (installs w.log).getLast?
  calls : ∀ (i : Nat) (f : StoreCall), w.calls[i]? = some f →
    ∃ p : Point, f.rest = p.program rules sourceName ∧ Follows w.captures w.log i p
  known : ∀ (t : Instant) (i : Nat), (t, .began i) ∈ w.log → i < w.calls.length
  returns : ∀ (q : Nat) (t : Instant) (i : Nat) (x : ServedSnapshot),
    w.log[q]? = some (t, .returned i (.ok x)) → Offers (w.log.take q) i x.named
  failures : ∀ (q : Nat) (t : Instant) (i : Nat) (halt : Halt),
    w.log[q]? = some (t, .returned i (.error halt)) → BegunBy (w.log.take q) i 0

-- What one step does, as far as the order of snapshots is concerned.
structure Goes (rules : CaptureRules) (sourceName : String) (w w' : Store) (installed : Option NamedSnapshot)
    (more : StoreLog) : Prop where
  advances : w.captures.Advances w'.captures w.now installed
  log : w'.log = w.log ++ more
  single : more.length ≤ 1
  installs : installs more = installed.toList
  grows : w.calls.length ≤ w'.calls.length
  calls : ∀ (i : Nat) (f' : StoreCall), w'.calls[i]? = some f' →
    (∃ f, w.calls[i]? = some f ∧ f'.rest = f.rest) ∨
      ∃ p : Point, f'.rest = p.program rules sourceName ∧ Follows w'.captures w'.log i p
  began : ∀ t i, (t, .began i) ∈ more → i = w.calls.length ∧ i < w'.calls.length
  returns : ∀ t i x, (t, .returned i (.ok x)) ∈ more → Offers w.log i x.named
  failures : ∀ t i halt, (t, .returned i (.error halt)) ∈ more → BegunBy w.log i 0

theorem ordered_fresh {e : Engine} (empty : e.captures = { rules := rules }) :
    Ordered rules sourceName { engine := e } where
  steady := by
    show e.captures.Steady
    rw [empty]
    exact Captures.steady_start rules
  current := by
    show e.captures.current.map _ = _
    rw [empty]
    rfl
  calls i f there := by simp at there
  known t i member := by simp at member
  returns q t i x there := by simp at there
  failures q t i halt there := by simp at there

section

variable {installed : Option NamedSnapshot} {more : StoreLog} {p : Point}

theorem follows_later (goes : Goes rules sourceName w w' installed more) (there : w.calls[i]? = some f)
    (follows : Follows w.captures w.log i p) : Follows w'.captures w'.log i p := by
  have other : ∀ t, (t, .began i) ∉ more := fun t began =>
    Nat.ne_of_lt (List.getElem?_eq_some_iff.mp there).1 (goes.began t i began).1
  rw [goes.log]
  cases p with
  | looks => trivial
  | serves s sourceError => exact offers_later follows other
  | ended out => trivial
  | awaits id previous =>
      obtain ⟨inside, old, none, settled⟩ := follows
      refine ⟨Nat.lt_of_lt_of_le inside goes.advances.grows, fun s same => offers_later (old s same) other,
        fun same => begun_by_later (none same) other, fun r' s there' outcome => ?_⟩
      rcases goes.advances.settled id r' s there' outcome with rfl | ⟨r, before, outcome⟩
      · exact offers_installed goes.installs other
      · exact offers_later (settled r s before outcome) other

theorem event_at {log : StoreLog} {q : Nat} {e : Instant × StoreEvent} (single : more.length ≤ 1)
    (there : (log ++ more)[q]? = some e) :
    log[q]? = some e ∧ (log ++ more).take q = log.take q ∨ e ∈ more ∧ (log ++ more).take q = log := by
  by_cases old : q < log.length
  · rw [List.getElem?_append_left old] at there
    exact .inl ⟨there, List.take_append_of_le_length (Nat.le_of_lt old)⟩
  · have after := Nat.le_of_not_lt old
    rw [List.getElem?_append_right after] at there
    have inside := (List.getElem?_eq_some_iff.mp there).1
    refine .inr ⟨List.mem_of_getElem? there, ?_⟩
    rw [show q = log.length by omega, List.take_left]

-- Every fact is kept by a step.
theorem goes_ordered (ordered : Ordered rules sourceName w) (goes : Goes rules sourceName w w' installed more) :
    Ordered rules sourceName w' where
  steady := goes.advances.steady
  current := by
    rw [goes.advances.current, goes.log, installs_append, goes.installs]
    cases installed with
    | none => simpa using ordered.current
    | some s => simp
  calls i f' there := by
    rcases goes.calls i f' there with ⟨f, before, same⟩ | anew
    · obtain ⟨p, here, follows⟩ := ordered.calls i f before
      exact ⟨p, same.trans here, follows_later goes before follows⟩
    · exact anew
  known t i member := by
    rw [goes.log] at member
    rcases List.mem_append.mp member with old | new
    · exact Nat.lt_of_lt_of_le (ordered.known t i old) goes.grows
    · exact (goes.began t i new).2
  returns q t i x there := by
    rw [goes.log] at there ⊢
    rcases event_at goes.single there with ⟨old, before⟩ | ⟨new, before⟩
    · rw [before]
      exact ordered.returns q t i x old
    · rw [before]
      exact goes.returns t i x new
  failures q t i halt there := by
    rw [goes.log] at there ⊢
    rcases event_at goes.single there with ⟨old, before⟩ | ⟨new, before⟩
    · rw [before]
      exact ordered.failures q t i halt old
    · rw [before]
      exact goes.failures t i halt new

end

/-! Each step. -/

theorem goes_begin (ordered : Ordered rules sourceName w) :
    Goes rules sourceName w (w.begin rules sourceName) none [(w.now, .began w.calls.length)] where
  advances := Captures.beside_advances ordered.steady rfl rfl rfl
  log := rfl
  single := Nat.le_refl 1
  installs := rfl
  grows := by simp [begin]
  calls i f' there := by
    simp only [begin] at there
    by_cases old : i < w.calls.length
    · rw [List.getElem?_append_left old] at there
      exact .inl ⟨f', there, rfl⟩
    · rw [List.getElem?_append_right (Nat.le_of_not_lt old)] at there
      have new := List.mem_singleton.mp (List.mem_of_getElem? there)
      exact .inr ⟨.looks, by rw [new]; rfl, trivial⟩
  began t i member := by
    cases List.mem_singleton.mp member
    exact ⟨rfl, by simp [begin]⟩
  returns t i x member := by simp at member
  failures t i halt member := by simp at member

theorem mem_ending {p : Point} {e : StoreEvent} (member : e ∈ ending i (p.program rules sourceName)) :
    ∃ out, p = .ended out ∧ e = .returned i out := by
  cases p with
  | ended out => exact ⟨out, rfl, List.mem_singleton.mp member⟩
  | awaits id previous => cases previous <;> cases member
  | looks => cases member
  | serves s sourceError => cases member

theorem ending_single (p : Point) : (ending i (p.program rules sourceName)).length ≤ 1 := by
  unfold ending
  split
  · exact Nat.le_refl 1
  · exact Nat.zero_le 1

-- A call goes on, and whatever it hands out is not too old for it.
theorem goes_on {e : Engine} {p : Point} (advances : w.captures.Advances e.captures w.now none)
    (follows : Follows e.captures w.log i p) (returns : ∀ x, p = .ended (.ok x) → Offers w.log i x.named)
    (failures : ∀ halt, p = .ended (.error halt) → BegunBy w.log i 0) :
    Goes rules sourceName w (w.goOn i f e (p.program rules sourceName)) none
      ((ending i (p.program rules sourceName)).map (w.now, ·)) := by
  have ends : ∀ t e, (t, e) ∈ (ending i (p.program rules sourceName)).map (w.now, ·) →
      ∃ out, p = .ended out ∧ e = .returned i out := by
    intro t e member
    obtain ⟨e', listed, same⟩ := List.mem_map.mp member
    cases same
    exact mem_ending listed
  have later : Follows e.captures (w.goOn i f e (p.program rules sourceName)).log i p := by
    cases nothing : ending i (p.program rules sourceName) with
    | nil => simpa only [goOn, nothing, List.map_nil, List.append_nil] using follows
    | cons e rest =>
        obtain ⟨out, rfl, _⟩ := mem_ending (nothing ▸ List.mem_cons_self)
        trivial
  refine ⟨advances, rfl, by simpa using ending_single p, ?_, by simp [goOn], ?_, ?_, ?_, ?_⟩
  · refine List.filterMap_eq_nil_iff.mpr fun e member => ?_
    obtain ⟨out, _, same⟩ := ends e.1 e.2 member
    rw [same]
  · intro j f' there'
    by_cases same : i = j
    · simp only [goOn, List.getElem?_set, if_pos same] at there'
      split at there'
      · cases there'
        exact .inr ⟨p, rfl, same ▸ later⟩
      · cases there'
    · exact .inl ⟨f', by simpa only [goOn, List.getElem?_set_ne same] using there', rfl⟩
  · intro t j member
    obtain ⟨_, _, same⟩ := ends t _ member
    cases same
  · intro t j x member
    obtain ⟨out, here, same⟩ := ends t _ member
    cases same
    exact returns x here
  · intro t j halt member
    obtain ⟨out, here, same⟩ := ends t _ member
    cases same
    exact failures halt here

theorem look_follows (ordered : Ordered rules sourceName w) (i : Nat) :
    w.captures.Advances w.engine.look.1.captures w.now none ∧
      Follows w.engine.look.1.captures w.log i (Point.found w.engine.look.2) := by
  have idle : w.captures.Advances w.captures w.now none := Captures.beside_advances ordered.steady rfl rfl rfl
  have current := ordered.current
  cases fresh : w.captures.fresh? w.now with
  | some s =>
      rw [Engine.look_fresh fresh]
      exact ⟨idle, offers_last (current.symm.trans (Captures.fresh_previous fresh))⟩
  | none =>
      have old : ∀ s, w.captures.previous? = some s → Offers w.log i s := fun s same =>
        offers_last (current.symm.trans same)
      have nothing : w.captures.previous? = none → BegunBy w.log i 0 := by
        intro missing
        have empty : installs w.log = [] := List.getLast?_eq_none_iff.mp (current.symm.trans missing)
        have all := begun_by_all w.log i
        rwa [empty] at all
      cases live : w.captures.live? with
      | some id =>
          obtain ⟨flying, r, there, _⟩ := Captures.live_iff.mp live
          rw [Engine.look_joins fresh live]
          refine ⟨idle, (List.getElem?_eq_some_iff.mp there).1, old, nothing, fun r' s there' outcome => ?_⟩
          rw [ordered.steady.unsettled id r' flying there'] at outcome
          cases outcome
      | none =>
          obtain ⟨delay, answer, captures, _, found⟩ := Engine.look_starts fresh live
          rw [captures, found]
          refine ⟨Captures.start_advances ordered.steady live _ _ _, ?_, old, nothing, fun r' s there' outcome => ?_⟩
          · simp [Captures.start]
          · rcases Captures.started_refresh there' with before | ⟨_, fetching⟩
            · rw [List.getElem?_eq_none (Nat.le_refl _)] at before
              cases before
            · rw [fetching] at outcome
              cases outcome

theorem told_follows (rules : CaptureRules) (sourceName : String) {c : Captures} {log : StoreLog} {id : RefreshId}
    {previous : Option NamedSnapshot} (awaited : Awaited) (follows : Follows c log i (.awaits id previous))
    (known : ∀ report, awaited = .report report → c.report? id = some report) :
    Follows c log i (Point.told rules sourceName previous awaited) ∧
      (∀ halt, Point.told rules sourceName previous awaited = .ended (.error halt) → BegunBy log i 0) := by
  obtain ⟨_, old, none, settled⟩ := follows
  rcases Point.told_cases rules sourceName previous awaited with ⟨s, sourceError, told, source⟩ | ⟨missing, halt, told⟩
  · rw [told]
    refine ⟨?_, by nofun⟩
    rcases source with same | came
    · exact old s same
    · obtain ⟨r, there, outcome⟩ := Captures.reported_settled (known _ came)
      exact settled r s there outcome
  · rw [told]
    exact ⟨trivial, fun _ _ => none missing⟩

-- What goes on beside the calls.
theorem goes_beside {installed : Option NamedSnapshot} {more : StoreLog} {e : Engine}
    (advances : w.captures.Advances e.captures w.now installed) (single : more.length ≤ 1)
    (came : installs more = installed.toList) (plain : ∀ t i, (t, .began i) ∉ more)
    (silent : ∀ t i out, (t, .returned i out) ∉ more) :
    Goes rules sourceName w { w with engine := e, log := w.log ++ more } installed more where
  advances := advances
  log := rfl
  single := single
  installs := came
  grows := Nat.le_refl _
  calls _ f there := .inl ⟨f, there, rfl⟩
  began t _ member := absurd member (plain t _)
  returns t _ _ member := absurd member (silent t _ _)
  failures t _ _ member := absurd member (silent t _ _)

theorem goes_drop (idle : w.captures.Advances w.captures w.now none) (there : w.calls[i]? = some f) :
    Goes rules sourceName w { w with calls := w.calls.set i { f with dropped := true } } none [] := by
  refine ⟨idle, (List.append_nil _).symm, Nat.zero_le 1, rfl, by simp, fun j f' there' => .inl ?_, by simp, by simp,
    by simp⟩
  by_cases same : i = j
  · subst same
    simp only [List.getElem?_set, if_true] at there'
    split at there'
    · cases there'
      exact ⟨f, there, rfl⟩
    · cases there'
  · exact ⟨f', by simpa only [List.getElem?_set_ne same] using there', rfl⟩

theorem step_goes (ordered : Ordered rules sourceName w) (step : StoreStep rules sourceName w w') :
    ∃ installed more, Goes rules sourceName w w' installed more := by
  have idle : w.captures.Advances w.captures w.now none := Captures.beside_advances ordered.steady rfl rfl rfl
  cases step with
  | begins => exact ⟨_, _, goes_begin ordered⟩
  | @acts i f a next there live turn =>
      obtain ⟨p, here, follows⟩ := ordered.calls i f there
      rcases Point.acts_from (here.symm.trans turn) w.engine with ⟨rfl, engine, further⟩ | ⟨s, err, rfl, engine, further⟩
      · rw [engine, further]
        obtain ⟨advances, looked⟩ := look_follows ordered i
        have plain : ∀ out, Point.found w.engine.look.2 ≠ .ended out := by
          intro out
          cases w.engine.look.2 <;> nofun
        exact ⟨_, _, goes_on advances looked (fun x same => absurd same (plain _))
          (fun halt same => absurd same (plain _))⟩
      · rw [engine, further]
        have pinned : w.captures.Advances (w.captures.pin w.now s) w.now none :=
          Captures.beside_advances ordered.steady rfl rfl rfl
        refine ⟨_, _, goes_on (p := .ended (.ok ⟨s, err⟩)) pinned trivial (fun x same => ?_) (by nofun)⟩
        cases same
        exact follows
  | @answered i f wait next answer there live turn given =>
      obtain ⟨p, here, follows⟩ := ordered.calls i f there
      obtain ⟨id, previous, report, rfl, engine, known, further⟩ := Point.answered_from (here.symm.trans turn) given
      rw [engine, further]
      obtain ⟨told, failed⟩ := told_follows rules sourceName (.report report) follows
        (fun report' same => by cases same; exact known)
      exact ⟨_, _, goes_on idle told (fun x same => absurd same (Point.told_pending _ _ x)) failed⟩
  | @late i f id patience next there live turn =>
      obtain ⟨p, here, follows⟩ := ordered.calls i f there
      obtain ⟨previous, rfl, further⟩ := Point.late_from (here.symm.trans turn)
      rw [further]
      obtain ⟨told, failed⟩ := told_follows rules sourceName .late follows (by nofun)
      exact ⟨_, _, goes_on idle told (fun x same => absurd same (Point.told_pending _ _ x)) failed⟩
  | drops there => exact ⟨_, _, goes_drop idle there⟩
  | fetched id =>
      have advances := Captures.end_fetch_advances ordered.steady w.now id
      cases named : w.captures.fetched? id with
      | none => exact ⟨_, _, goes_beside advances (Nat.zero_le 1) rfl (by simp) (by simp)⟩
      | some s => exact ⟨_, _, goes_beside advances (Nat.le_refl 1) rfl (by simp) (by simp)⟩
  | recorded id =>
      have advances := Captures.record_advances ordered.steady w.now id
      cases named : w.captures.installs? id with
      | none =>
          rw [named] at advances
          exact ⟨_, _, goes_beside advances (Nat.zero_le 1) rfl (by simp) (by simp)⟩
      | some s =>
          rw [named] at advances
          exact ⟨_, _, goes_beside advances (Nat.le_refl 1) rfl (by simp) (by simp)⟩
  | reported id =>
      exact ⟨_, _, goes_beside (Captures.report_advances ordered.steady id) (Nat.zero_le 1) rfl (by simp) (by simp)⟩
  | dies there live =>
      exact ⟨_, _, goes_beside (Captures.died_advances ordered.steady _) (Nat.zero_le 1) rfl (by simp) (by simp)⟩
  | uses u caller =>
      obtain ⟨current, inFlight, refreshes⟩ := use_beside rules u caller w
      exact ⟨_, _, goes_beside (Captures.beside_advances ordered.steady current inFlight refreshes) (Nat.le_refl 1) rfl
        (by simp) (by simp)⟩
  | @outside e same later =>
      have advances : w.captures.Advances e.captures w.now none := same ▸ idle
      have goes : Goes rules sourceName w { w with engine := e, log := w.log ++ [] } none [] :=
        goes_beside advances (Nat.zero_le 1) rfl (by simp) (by simp)
      exact ⟨_, _, (List.append_nil w.log) ▸ goes⟩

theorem run_ordered (run : StoreRun rules sourceName w) : Ordered rules sourceName w := by
  induction run with
  | fresh empty => exact ordered_fresh empty
  | further before step ih =>
      obtain ⟨_, _, goes⟩ := step_goes ih step
      exact goes_ordered ih goes

-- The current snapshot is another only where one was put on record as such.
theorem step_current (ordered : Ordered rules sourceName w) (step : StoreStep rules sourceName w w') :
    w'.captures.current = w.captures.current ∨
      ∃ s, w'.captures.current = some ⟨s, w.now⟩ ∧ ∃ t, w'.log = w.log ++ [(t, .installed s)] := by
  obtain ⟨installed, more, goes⟩ := step_goes ordered step
  have current := goes.advances.current
  cases installed with
  | none => exact .inl (by simpa using current)
  | some s =>
      obtain ⟨⟨t, e⟩, rfl⟩ : ∃ e, more = [e] := by
        refine List.length_eq_one_iff.mp (Nat.le_antisymm goes.single (List.length_pos_iff.mpr ?_))
        rintro rfl
        cases goes.installs
      have came := goes.installs
      cases e with
      | installed s' =>
          cases came
          exact .inr ⟨s, by simpa using current, t, goes.log⟩
      | _ => cases came

theorem steps_run {w' : Store} (run : StoreRun rules sourceName w)
    (steps : ReflTransGen (StoreStep rules sourceName) w w') : StoreRun rules sourceName w' := by
  induction steps with
  | refl => exact run
  | tail _ step ih => exact .further ih step

theorem steps_current (run : StoreRun rules sourceName w) (steps : ReflTransGen (StoreStep rules sourceName) w w')
    (some : w.captures.current.isSome = true) : w'.captures.current.isSome = true := by
  induction steps with
  | refl => exact some
  | @tail between _ before step ih =>
      rcases step_current (run_ordered (steps_run run before)) step with same | ⟨s, new, _⟩
      · rw [same]
        exact ih
      · rw [new]
        rfl

theorem one_fetch (steady : w.captures.Steady) {id id' : RefreshId} {r r' : Refresh}
    (there : w.captures.refreshes[id]? = some r) (there' : w.captures.refreshes[id']? = some r')
    (fetching : r.phase = .fetching) (fetching' : r'.phase = .fetching) : id = id' := by
  have flies := steady.pending id r there (by rw [fetching]; rfl)
  have flies' := steady.pending id' r' there' (by rw [fetching']; rfl)
  exact Option.some.inj (flies.symm.trans flies')

-- Whoever finds the current snapshot missing or due joins a refresh that can still report, or starts one.
theorem look_refreshes {e : Engine} (stale : e.captures.fresh? e.now = none) :
    ∃ id, e.look.2 = .refreshing id e.captures.previous? ∧ e.look.1.captures.live? = some id ∧
      (e.captures.live? = some id ∧ e.look.1 = e ∨
        e.captures.live? = none ∧ id = e.captures.refreshes.length ∧
          ∃ r, e.look.1.captures.refreshes = e.captures.refreshes ++ [r] ∧ r.phase = .fetching) := by
  cases live : e.captures.live? with
  | some id =>
      rw [Engine.look_joins stale live]
      exact ⟨id, rfl, live, .inl ⟨rfl, rfl⟩⟩
  | none =>
      obtain ⟨delay, answer, captures, _, found⟩ := Engine.look_starts stale live
      rw [found, captures]
      refine ⟨_, rfl, ?_, .inr ⟨rfl, rfl, _, rfl, rfl⟩⟩
      exact Captures.live_iff.mpr ⟨rfl, _, List.getElem?_concat_length, rfl⟩

-- Which snapshot each call was given, counted in the order in which they became current.
theorem given_in_order (ordered : Ordered rules sourceName w) : ∃ place : Nat → Nat,
    (∀ q t i x, w.log[q]? = some (t, .returned i (.ok x)) →
      (installs (w.log.take q))[place q]? = some x.named) ∧
    (∀ p b q t t' t'' i i' x y, p < b → b < q → w.log[p]? = some (t, .returned i (.ok x)) →
      w.log[b]? = some (t', .began i') → w.log[q]? = some (t'', .returned i' (.ok y)) → place p ≤ place q) := by
  have each : ∀ q, ∃ j, ∀ t i x, w.log[q]? = some (t, .returned i (.ok x)) →
      (installs (w.log.take q))[j]? = some x.named ∧ BegunBy (w.log.take q) i (j + 1) := by
    intro q
    by_cases given : ∃ t i x, w.log[q]? = some (t, .returned i (.ok x))
    · obtain ⟨t, i, x, there⟩ := given
      obtain ⟨j, came, begun⟩ := ordered.returns q t i x there
      refine ⟨j, fun t' i' x' there' => ?_⟩
      cases there.symm.trans there'
      exact ⟨came, begun⟩
    · exact ⟨0, fun t i x there => absurd ⟨t, i, x, there⟩ given⟩
  obtain ⟨place, placed⟩ := Classical.skolem.mp each
  refine ⟨place, fun q t i x there => (placed q t i x there).1, ?_⟩
  intro p b q t t' t'' i i' x y first second there began there'
  have before : place p < (installs (w.log.take p)).length :=
    (List.getElem?_eq_some_iff.mp (placed p t i x there).1).1
  have grown : (installs (w.log.take p)).length ≤ (installs (w.log.take b)).length := by
    have taken := installs_take (w.log.take b) p
    rwa [List.take_take, Nat.min_eq_left (Nat.le_of_lt first)] at taken
  have started : (installs (w.log.take b)).length ≤ place q + 1 := by
    have begun := (placed q t'' i' y there').2 b t' (by rw [List.getElem?_take_of_lt second]; exact began)
    rwa [List.take_take, Nat.min_eq_left (Nat.le_of_lt second)] at begun
  omega

end Store

open Store

variable {rules : CaptureRules} {sourceName : String} {w : Store}

/-- Whatever calls, refreshes and deaths of refreshes are interleaved: one fetch runs at a time; what is current is what
became so last, and remains until a refresh that ended well takes its place; no call is given anything older than what
one that ended before it began was given, and it fails only if there had been nothing; and where a refresh is due, the
next to ask is sent to one that can still report, so that nobody waits for one that has died. -/
theorem refreshed_in_order (run : StoreRun rules sourceName w) :
    (∀ (id id' : RefreshId) (r r' : Refresh), w.captures.refreshes[id]? = some r → w.captures.refreshes[id']? = some r' →
      r.phase = .fetching → r'.phase = .fetching → id = id') ∧
    (w.captures.current.map (·.named) = (installs w.log).getLast? ∧
      (∀ w', StoreStep rules sourceName w w' → w'.captures.current = w.captures.current ∨
        ∃ s, w'.captures.current = some ⟨s, w.now⟩ ∧ ∃ t, w'.log = w.log ++ [(t, .installed s)]) ∧
      ∀ w', ReflTransGen (StoreStep rules sourceName) w w' → w.captures.current.isSome = true →
        w'.captures.current.isSome = true) ∧
    ((∃ place : Nat → Nat,
        (∀ q t i x, w.log[q]? = some (t, .returned i (.ok x)) →
          (installs (w.log.take q))[place q]? = some x.named) ∧
        ∀ p b q t t' t'' i i' x y, p < b → b < q → w.log[p]? = some (t, .returned i (.ok x)) →
          w.log[b]? = some (t', .began i') → w.log[q]? = some (t'', .returned i' (.ok y)) → place p ≤ place q) ∧
      ∀ b q t t' i halt, b < q → w.log[b]? = some (t, .began i) →
        w.log[q]? = some (t', .returned i (.error halt)) → installs (w.log.take b) = []) ∧
    ((w.captures.fresh? w.now = none → ∃ id, w.engine.look.2 = .refreshing id w.captures.previous? ∧
        w.engine.look.1.captures.live? = some id ∧
        (w.captures.live? = some id ∧ w.engine.look.1 = w.engine ∨
          w.captures.live? = none ∧ id = w.captures.refreshes.length ∧
            ∃ r, w.engine.look.1.captures.refreshes = w.captures.refreshes ++ [r] ∧ r.phase = .fetching)) ∧
      ∀ f ∈ w.calls, ∀ id patience next, f.rest = .ask (.wait (.refreshed id patience)) next →
        (∃ r, w.captures.refreshes[id]? = some r ∧ r.isLive = true) ∨
          ∃ answer, (w.engine.attempt f.caller (.refreshed id patience)).2 = some answer) := by
  have ordered := run_ordered run
  refine ⟨?_, ⟨ordered.current, ?_, ?_⟩, ⟨given_in_order ordered, ?_⟩, look_refreshes, ?_⟩
  · intro id id' r r' there there' fetching fetching'
    exact one_fetch ordered.steady there there' fetching fetching'
  · intro w' step
    exact step_current ordered step
  · intro w' steps some
    exact steps_current run steps some
  · intro b q t t' i halt before began failed
    have begun := ordered.failures q t' i halt failed b t (by rw [List.getElem?_take_of_lt before]; exact began)
    rw [List.take_take, Nat.min_eq_left (Nat.le_of_lt before)] at begun
    exact List.length_eq_zero_iff.mp (Nat.le_zero.mp begun)
  · intro f member id patience next turn
    obtain ⟨i, there⟩ := List.getElem?_of_mem member
    obtain ⟨p, here, follows⟩ := ordered.calls i f there
    obtain ⟨previous, rfl⟩ := Point.waits_from (here.symm.trans turn)
    obtain ⟨r, inside⟩ : ∃ r, w.captures.refreshes[id]? = some r := ⟨_, List.getElem?_eq_getElem follows.1⟩
    rcases Captures.live_or_reported inside with live | ⟨report, known⟩
    · exact .inl ⟨_, inside, live⟩
    · refine .inr ⟨.report report, ?_⟩
      show (w.captures.report? id).map Awaited.report = _
      rw [known]
      rfl

namespace Sample

-- The first refresh dies, the next call starts another and is given what it fetched, and so is a third.
def revival : List StoreMove :=
  [.begin, .go 0, .die 0, .begin, .go 1, .fetched 1, .recorded 1, .reported 1, .go 1, .go 1, .begin, .go 2, .go 2, .go 0]

def revived : Store := Store.play {} "static" { engine := { source := source } } revival

theorem revived_run : StoreRun {} "static" revived := Store.play_run (.fresh rfl) revival

def isGiven (call : Nat) (e : Instant × StoreEvent) : Bool :=
  match e.2 with
  | .returned i (.ok _) => i = call
  | _ => false

theorem given_event {call : Nat} {e : Instant × StoreEvent} (given : isGiven call e = true) :
    ∃ t x, e = (t, .returned call (.ok x)) := by
  obtain ⟨t, e⟩ := e
  unfold isGiven at given
  split at given
  · rename_i i x here
    exact ⟨t, x, by rw [show e = _ from here, of_decide_eq_true given]⟩
  · cases given

theorem revived_evaluated : revived.log[4]?.any (isGiven 1) = true ∧ revived.log[5]? = some (0, .began 2) ∧
    revived.log[6]?.any (isGiven 2) = true := by
  refine ⟨by decide +kernel, rfl, by decide +kernel⟩

theorem revived_in_order : ∃ place : Nat → Nat, ∃ t t' x y, revived.log[4]? = some (t, .returned 1 (.ok x)) ∧
    revived.log[6]? = some (t', .returned 2 (.ok y)) ∧ (installs (revived.log.take 4))[place 4]? = some x.named ∧
    (installs (revived.log.take 6))[place 6]? = some y.named ∧ place 4 ≤ place 6 := by
  obtain ⟨first, began, second⟩ := revived_evaluated
  obtain ⟨e, there, given⟩ := (Option.any_eq_true _ _).mp first
  obtain ⟨e', there', given'⟩ := (Option.any_eq_true _ _).mp second
  obtain ⟨t, x, rfl⟩ := given_event given
  obtain ⟨t', y, rfl⟩ := given_event given'
  obtain ⟨_, _, ⟨⟨place, placed, ordered⟩, _⟩, _⟩ := refreshed_in_order revived_run
  exact ⟨place, t, t', x, y, there, there', placed 4 t 1 x there, placed 6 t' 2 y there',
    ordered 4 5 6 t 0 t' 1 2 x y (by decide) (by decide) there began there'⟩

end Sample

end GridLoad
