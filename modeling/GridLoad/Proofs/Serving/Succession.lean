import GridLoad.Proofs.Serving.Outcomes
import GridLoad.Proofs.Serving.Turns
import GridLoad.Proofs.Serving.Waiting

/-!
The registries that are served one after the other. Requests take turns in replacing the registry, and whoever has the
turn replaces the one that it has seen by one of a higher number.
-/

set_option autoImplicit false

namespace GridLoad

open Program

-- One registry was served right after another.
def Follows (previous r : Registry) (published : List Registry) : Prop :=
  ∃ early late, published = early ++ previous :: r :: late

theorem follows_append {previous r : Registry} {published : List Registry} (follows : Follows previous r published)
    (later : List Registry) : Follows previous r (published ++ later) := by
  obtain ⟨early, late, rfl⟩ := follows
  exact ⟨early, late ++ later, by simp⟩

theorem follows_last {previous : Registry} {published : List Registry} (last : published.getLast? = some previous)
    (r : Registry) : Follows previous r (published ++ [r]) := by
  obtain ⟨early, rfl⟩ := List.getLast?_eq_some_iff.mp last
  exact ⟨early, [], by simp⟩

namespace Turn

-- What a request knows of the registry that is served while it has the turn.
def Fits (current : Registry) : Turn → Prop
  | .seen previous => previous = current
  | .drawn previous number => previous = current ∧ previous.generation < number
  | .served _ r => r = current
  | _ => True

-- What it has made of it.
def Followed (published : List Registry) : Turn → Prop
  | .served previous r => Follows previous r published
  | .over previous r => Follows previous r published
  | _ => True

theorem followed_append {turn : Turn} {published : List Registry} (followed : turn.Followed published)
    (later : List Registry) : turn.Followed (published ++ later) := by
  cases turn <;> first | trivial | exact follows_append followed later

-- To see the registry that is served is to see what is known of it.
theorem registry_seen {turn : Turn} {current : Registry} {published : List Registry} (fits : turn.Fits current)
    (followed : turn.Followed published) :
    (turn.after ⟨.act .registry, current⟩).Fits current ∧ (turn.after ⟨.act .registry, current⟩).Followed published := by
  cases turn with
  | entered => exact ⟨rfl, trivial⟩
  | served previous r =>
      obtain rfl : r = current := fits
      exact ⟨rfl, followed⟩
  | _ => exact ⟨fits, followed⟩

end Turn

-- A request that is not given up has the turn.
def Flight.InTurn (f : Flight) : Prop := f.dropped = false ∧ (turn f.transcript).Inside

structure Succession (w : World) : Prop where
  owned : ∀ f ∈ w.flights, f.InTurn → w.engine.reloading = some f.caller
  fits : ∀ f ∈ w.flights, f.InTurn → (turn f.transcript).Fits w.engine.publication.current
  followed : ∀ f ∈ w.flights, (turn f.transcript).Followed w.history.published
  last : w.history.published.getLast? = some w.engine.publication.current
  rising : w.history.published.Pairwise fun earlier later => earlier.generation < later.generation

section

variable {w : World} {i : Nat} {f : Flight} {e : Engine} {x : Exchange Question.Answer} {rest : Serve f.ask.Answer}

theorem succession_first {setup : Setup} {r : Registry} {running : Running} (begins : Begins setup r running) :
    Succession (World.first r running.engine) where
  owned _ none := nomatch none
  fits _ none := nomatch none
  followed _ none := nomatch none
  last := by simp [World.first, begins.publication, Publication.first]
  rising := List.pairwise_singleton _ _

-- The flights stay as they are, and so does what is served.
theorem succession_engine {h : History} (succession : Succession w) (reloading : e.reloading = w.engine.reloading)
    (current : e.publication.current = w.engine.publication.current) (published : h.published = w.history.published) :
    Succession { engine := e, flights := w.flights, history := h } where
  owned g member inside := reloading.trans (succession.owned g member inside)
  fits g member inside := current ▸ succession.fits g member inside
  followed g member := published ▸ succession.followed g member
  last := by rw [published, current, succession.last]
  rising := published ▸ succession.rising

-- One flight changes: what the others go by stays, and what it goes by itself is shown.
theorem succession_set {f' : Flight} {h : History} (later : List Registry) (succession : Succession w)
    (there : w.flights[i]? = some f)
    (others : ∀ (j : Nat) (g : Flight), j ≠ i → w.flights[j]? = some g → g.InTurn →
      e.reloading = w.engine.reloading ∧ e.publication.current = w.engine.publication.current)
    (owned : f'.InTurn → e.reloading = some f'.caller)
    (fits : f'.InTurn → (turn f'.transcript).Fits e.publication.current)
    (followed : (turn f'.transcript).Followed h.published) (published : h.published = w.history.published ++ later)
    (last : h.published.getLast? = some e.publication.current)
    (rising : h.published.Pairwise fun earlier later => earlier.generation < later.generation) :
    Succession { engine := e, flights := w.flights.set i f', history := h } := by
  refine ⟨fun g member inside => ?_, fun g member inside => ?_, fun g member => ?_, last, rising⟩
  all_goals
    obtain ⟨j, place⟩ := List.getElem?_of_mem member
    rcases World.set_at there place with ⟨_, rfl⟩ | ⟨other, old⟩
  · exact owned inside
  · exact (others j g other old inside).1.trans (succession.owned g (List.mem_of_getElem? old) inside)
  · exact fits inside
  · rw [(others j g other old inside).2]
    exact succession.fits g (List.mem_of_getElem? old) inside
  · exact followed
  · rw [published]
    exact Turn.followed_append (succession.followed g (List.mem_of_getElem? old)) later

-- One flight goes on without a change of what is served.
theorem succession_on (succession : Succession w) (there : w.flights[i]? = some f)
    (others : ∀ (j : Nat) (g : Flight), j ≠ i → w.flights[j]? = some g → g.InTurn →
      e.reloading = w.engine.reloading)
    (current : e.publication.current = w.engine.publication.current)
    (published : (w.history.after x).published = w.history.published)
    (owned : (f.goOn x rest).InTurn → e.reloading = some f.caller)
    (fits : (f.goOn x rest).InTurn → (turn (f.transcript ++ [x])).Fits w.engine.publication.current)
    (followed : (turn (f.transcript ++ [x])).Followed w.history.published) : Succession (w.exchange i f e x rest) := by
  refine succession_set [] succession there ?_ owned ?_ ?_ (by simp [published]) ?_ ?_
  · exact fun j g other old inside => ⟨others j g other old inside, current⟩
  · rw [current]
    exact fits
  · rw [published]
    exact followed
  · rw [published, current, succession.last]
  · rw [published]
    exact succession.rising

-- The turn stays where it is.
theorem succession_steady (succession : Succession w) (there : w.flights[i]? = some f)
    (reloading : e.reloading = w.engine.reloading)
    (current : e.publication.current = w.engine.publication.current)
    (published : (w.history.after x).published = w.history.published)
    (same : turn (f.transcript ++ [x]) = turn f.transcript) : Succession (w.exchange i f e x rest) := by
  have member := List.mem_of_getElem? there
  have before : (f.goOn x rest).InTurn → f.InTurn := fun inside => ⟨inside.1, same ▸ inside.2⟩
  refine succession_on succession there (fun _ _ _ _ _ => reloading) current published ?_ ?_ ?_
  · exact fun inside => reloading.trans (succession.owned f member (before inside))
  · rw [same]
    exact fun inside => succession.fits f member (before inside)
  · rw [same]
    exact succession.followed f member

-- Whoever has the turn has it alone.
theorem alone_in_turn (succession : Succession w) (named : Named w.flights) (there : w.flights[i]? = some f)
    (inside : f.InTurn) (j : Nat) (g : Flight) (other : j ≠ i) (place : w.flights[j]? = some g) : ¬ g.InTurn := by
  intro both
  have mine := succession.owned f (List.mem_of_getElem? there) inside
  have theirs := succession.owned g (List.mem_of_getElem? place) both
  exact other (named j i g f place there (Option.some.inj (theirs.symm.trans mine)))

end

namespace Engine

theorem perform_reloading {a : Act} (steady : (Question.act a).Steady) (e : Engine) :
    (e.perform a).1.reloading = e.reloading := by
  cases a with
  | endReload => exact absurd steady id
  | look =>
      obtain ⟨_, _, same⟩ := look_apart e
      rw [same]
  | _ => rfl

theorem attempt_reloading {wait : Wait} (steady : (Question.wait wait).Steady) (e : Engine) (caller : Caller) :
    (e.attempt caller wait).1.reloading = e.reloading := by
  cases wait with
  | reloadTurn => exact absurd steady id
  | _ => rfl

theorem give_up_reloading (e : Engine) (caller : Caller) (wait : Wait) :
    (e.giveUp caller wait).reloading = e.reloading := by
  cases wait <;> rfl

-- The turn is given to nobody while another has it.
theorem reload_turn_given {e : Engine} {caller : Caller} {answer : Unit}
    (given : (e.attempt caller .reloadTurn).2 = some answer) :
    e.reloading = none ∧ (e.attempt caller .reloadTurn).1 = { e with reloading := some caller } := by
  cases free : e.reloading with
  | none => simp [attempt, free]
  | some other => simp [attempt, free] at given

theorem reload_turn_pending {e : Engine} {caller : Caller} (pending : (e.attempt caller .reloadTurn).2 = none) :
    (e.attempt caller .reloadTurn).1 = e := by
  cases free : e.reloading with
  | none => simp [attempt, free] at pending
  | some other => simp [attempt, free]

end Engine

theorem steady_numbers {a : Act} (steady : (Question.act a).Steady) : ¬ a.Numbers := by
  cases a <;> first | exact id | exact absurd steady id

namespace World

variable {v : Service} {first : Registry} {w w' : World} {i : Nat} {f : Flight}

-- Numbers that are drawn are above those of all registries that were served.
theorem published_below (numbered : Numbered first w) {r : Registry} (served : r ∈ w.history.published) :
    r.generation < w.engine.publication.next := by
  obtain ⟨later, split, servers⟩ := numbered.servers
  rw [numbered.next]
  rcases List.mem_cons.mp (split ▸ served) with rfl | after
  · omega
  · obtain ⟨f, member, _, drew⟩ := servers r after
    exact (numbered.between f member _ drew).2

theorem current_published (succession : Succession w) : w.engine.publication.current ∈ w.history.published := by
  obtain ⟨early, split⟩ := List.getLast?_eq_some_iff.mp succession.last
  simp [split]

theorem below_current (succession : Succession w) {r : Registry} (served : r ∈ w.history.published) :
    r.generation ≤ w.engine.publication.current.generation := by
  obtain ⟨early, split⟩ := List.getLast?_eq_some_iff.mp succession.last
  have rising := succession.rising
  rw [split] at served rising
  rcases List.mem_append.mp served with before | last
  · exact Nat.le_of_lt ((List.pairwise_append.mp rising).2.2 r before _ (List.mem_singleton_self _))
  · rw [List.mem_singleton.mp last]

section

variable (succession : Succession w) (there : w.flights[i]? = some f) (live : f.dropped = false)

include succession there live

theorem registry_succession {rest : Serve f.ask.Answer} :
    Succession (w.exchange i f w.engine ⟨.act .registry, w.engine.publication.current⟩ rest) := by
  have member := List.mem_of_getElem? there
  by_cases inside : (turn f.transcript).Inside
  · obtain ⟨fits, followed⟩ :=
      Turn.registry_seen (succession.fits f member ⟨live, inside⟩) (succession.followed f member)
    rw [← turn_snoc] at fits followed
    exact succession_on succession there (fun _ _ _ _ _ => rfl) rfl rfl
      (fun _ => succession.owned f member ⟨live, inside⟩) (fun _ => fits) followed
  · exact succession_steady succession there rfl rfl rfl (by rw [turn_snoc, after_registry inside])

theorem generation_succession (numbered : Numbered first w) {rest : Serve f.ask.Answer} {previous : Registry}
    (seen : turn f.transcript = .seen previous) :
    Succession (w.exchange i f (w.engine.perform .generation).1 ⟨.act .generation, w.engine.publication.next⟩ rest) := by
  have member := List.mem_of_getElem? there
  have inside : f.InTurn := ⟨live, by rw [seen]; trivial⟩
  have drawn : turn (f.transcript ++ [⟨.act .generation, w.engine.publication.next⟩]) =
      .drawn previous w.engine.publication.next := by
    rw [turn_snoc, seen]
    rfl
  have fits : previous = w.engine.publication.current := by
    simpa only [seen, Turn.Fits] using succession.fits f member inside
  refine succession_on succession there (fun _ _ _ _ _ => rfl) rfl rfl (fun _ => succession.owned f member inside) ?_ ?_
  · rw [drawn, fits]
    exact fun _ => ⟨rfl, published_below numbered (current_published succession)⟩
  · rw [drawn]
    trivial

variable (named : Named w.flights)

include named

theorem publish_succession {rest : Serve f.ask.Answer} {previous r : Registry}
    (drawn : turn f.transcript = .drawn previous r.generation) :
    Succession (w.exchange i f (w.engine.perform (.publish r)).1 ⟨.act (.publish r), ()⟩ rest) := by
  have member := List.mem_of_getElem? there
  have inside : f.InTurn := ⟨live, by rw [drawn]; trivial⟩
  obtain ⟨fits, higher⟩ : previous = w.engine.publication.current ∧ previous.generation < r.generation := by
    simpa only [drawn, Turn.Fits] using succession.fits f member inside
  have served : turn (f.transcript ++ [⟨.act (.publish r), ()⟩]) = .served previous r := by
    rw [turn_snoc, drawn]
    rfl
  refine succession_set [r] succession there ?_ (fun _ => succession.owned f member inside) ?_ ?_ rfl ?_ ?_
  · exact fun j g other place both => absurd both (alone_in_turn succession named there inside j g other place)
  · exact fun _ => (congrArg (Turn.Fits r) served).mpr rfl
  · refine (congrArg (Turn.Followed _) served).mpr ?_
    exact follows_last (fits ▸ succession.last) r
  · simp [History.after, Engine.perform, Publication.publish]
  · refine List.pairwise_append.mpr ⟨succession.rising, List.pairwise_singleton _ _, fun earlier before later last => ?_⟩
    rw [List.mem_singleton.mp last]
    exact Nat.lt_of_le_of_lt (below_current succession before) (fits ▸ higher)

theorem end_reload_succession {rest : Serve f.ask.Answer} (inside : (turn f.transcript).Inside) :
    Succession (w.exchange i f (w.engine.perform .endReload).1 ⟨.act .endReload, ()⟩ rest) := by
  have followed := succession.followed f (List.mem_of_getElem? there)
  have ended : ¬ (turn (f.transcript ++ [⟨.act .endReload, ()⟩])).Inside := by
    rw [turn_snoc]
    cases turn f.transcript <;> exact id
  refine succession_on succession there ?_ rfl rfl (fun both => absurd both.2 ended) (fun both => absurd both.2 ended) ?_
  · exact fun j g other place both => absurd both (alone_in_turn succession named there ⟨live, inside⟩ j g other place)
  · rw [turn_snoc]
    revert followed
    cases turn f.transcript <;> first | exact id | exact fun _ => trivial

omit live named in
theorem enter_succession {rest : Serve f.ask.Answer} {answer : Unit}
    (given : (w.engine.attempt f.caller .reloadTurn).2 = some answer) :
    Succession (w.exchange i f (w.engine.attempt f.caller .reloadTurn).1 ⟨.wait .reloadTurn, some answer⟩ rest) := by
  obtain ⟨free, taken⟩ := Engine.reload_turn_given given
  have entered : turn (f.transcript ++ [⟨.wait .reloadTurn, some answer⟩]) = .entered := turn_snoc _ _
  rw [taken]
  refine succession_on succession there ?_ rfl rfl (fun _ => rfl) ?_ ?_
  · intro j g other place both
    have owned := succession.owned g (List.mem_of_getElem? place) both
    rw [free] at owned
    cases owned
  · rw [entered]
    exact fun _ => trivial
  · rw [entered]
    trivial

omit live in
theorem drop_succession : Succession (w.drop i f) := by
  have followed := succession.followed f (List.mem_of_getElem? there)
  refine succession_set [] succession there ?_ (fun both => nomatch both.1) (fun both => nomatch both.1) followed
    (by simp) succession.last succession.rising
  intro j g other place both
  have owned := succession.owned g (List.mem_of_getElem? place) both
  have apart : g.caller ≠ f.caller := fun same => other (named j i g f place there same)
  simp [Engine.abandon, owned, apart]

end

theorem arrive_succession (ask : Ask) (succession : Succession w) : Succession (w.arrive v ask) := by
  have place : ∀ g ∈ (w.arrive v ask).flights, g ∈ w.flights ∨ g.transcript = [] := by
    intro g member
    rcases List.mem_append.mp member with old | new
    · exact .inl old
    · cases List.mem_singleton.mp new
      exact .inr rfl
  have outside : ∀ g : Flight, g.transcript = [] → ¬ g.InTurn := by
    rintro g new ⟨_, inside⟩
    rw [new] at inside
    exact inside
  refine ⟨fun g member inside => ?_, fun g member inside => ?_, fun g member => ?_, succession.last, succession.rising⟩
  all_goals rcases place g member with old | new
  · exact succession.owned g old inside
  · exact absurd inside (outside g new)
  · exact succession.fits g old inside
  · exact absurd inside (outside g new)
  · exact succession.followed g old
  · rw [new]
    trivial

theorem step_succession (sound : w.Sound v) (locked : w.Locked) (numbered : Numbered first w)
    (succession : Succession w) (step : Step v w w') : Succession w' := by
  cases step with
  | arrives ask => exact arrive_succession ask succession
  | @acts i f a next there live rest =>
      have due := flight_due (sound.flights f (flight_mem there)) rest
      by_cases steady : (Question.act a).Steady
      · have numbers := steady_numbers steady
        exact succession_steady succession there (Engine.perform_reloading steady _)
          (congrArg Publication.current (perform_publication numbers _)) (after_other numbers _ _).2
          (turn_steady steady _ _)
      · cases a with
        | registry => exact registry_succession succession there live
        | generation =>
            obtain ⟨previous, seen⟩ := due
            exact generation_succession succession there live numbered seen
        | publish r =>
            obtain ⟨previous, drawn⟩ := due
            exact publish_succession succession there live locked.named drawn
        | endReload => exact end_reload_succession succession there live locked.named due
        | _ => exact absurd trivial steady
  | @answered i f wait next answer there live rest given =>
      by_cases steady : (Question.wait wait).Steady
      · exact succession_steady succession there (Engine.attempt_reloading steady _ _)
          (congrArg Publication.current (attempt_publication _ _ _)) rfl (turn_steady steady _ _)
      · cases wait with
        | reloadTurn => exact enter_succession succession there given
        | _ => exact absurd trivial steady
  | @waits i f wait next there live rest pending =>
      refine succession_engine succession ?_ (congrArg Publication.current (attempt_publication _ _ _)) rfl
      by_cases steady : (Question.wait wait).Steady
      · exact Engine.attempt_reloading steady _ _
      · cases wait with
        | reloadTurn => rw [Engine.reload_turn_pending pending]
        | _ => exact absurd trivial steady
  | @late i f id patience next there live rest =>
      have steady : (Question.wait (.refreshed id (some patience))).Steady := trivial
      exact succession_steady succession there rfl rfl rfl (turn_steady steady _ _)
  | cut there live rest =>
      exact succession_steady succession there (Engine.give_up_reloading _ _ _)
        (congrArg Publication.current (give_up_publication _ _ _)) rfl (by rw [turn_snoc, after_unanswered])
  | drops there live => exact drop_succession succession there locked.named
  | fetched id => exact succession_engine (w := w) succession rfl rfl rfl
  | recorded id => exact succession_engine (w := w) succession rfl rfl rfl
  | reported id => exact succession_engine (w := w) succession rfl rfl rfl
  | outside files source clock journal later => exact succession_engine succession rfl rfl rfl

-- Every number so far has been given out once, in turn.
theorem numbers_step (numbered : Numbered first w) (step : Step v w w')
    (before : w.history.numbers = List.range' (first.generation + 1) w.history.numbers.length) :
    w'.history.numbers = List.range' (first.generation + 1) w'.history.numbers.length := by
  cases step with
  | @acts i f a next there live rest =>
      by_cases numbers : a.Numbers
      · cases a with
        | generation =>
            have drawn : (w.engine.perform .generation).2 = first.generation + 1 + w.history.numbers.length :=
              numbered.next
            simp only [exchange, History.after, drawn, List.length_append, List.length_singleton, List.range'_concat,
              ← before]
            simp
        | publish r => exact before
        | _ => exact absurd numbers id
      · have kept : (w.exchange i f (w.engine.perform a).1 ⟨.act a, (w.engine.perform a).2⟩
            (next (w.engine.perform a).2)).history.numbers = w.history.numbers := (after_other numbers _ _).1
        rw [kept]
        exact before
  | _ => exact before

end World

variable {v : Service} {first : Registry} {w : World}

theorem reachable_succession (reachable : Reachable v first w) (counted : w.Counted first) : Succession w := by
  induction reachable with
  | launched accepted started => exact succession_first (launch_begins started)
  | further before step ih =>
      have earlier := World.counted_back step counted
      exact World.step_succession (reachable_sound before) (reachable_locked before)
        (reachable_numbered before earlier) (ih earlier) step

theorem reachable_numbers (reachable : Reachable v first w) (counted : w.Counted first) :
    w.history.numbers = List.range' (first.generation + 1) w.history.numbers.length := by
  induction reachable with
  | launched accepted started => rfl
  | further before step ih =>
      have earlier := World.counted_back step counted
      exact World.numbers_step (reachable_numbered before earlier) step (ih earlier)

end GridLoad
