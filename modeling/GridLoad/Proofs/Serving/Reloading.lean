import GridLoad.Proofs.Feature.Retained
import GridLoad.Proofs.Serving.Runs
import GridLoad.Proofs.Serving.Schedule
import GridLoad.Proofs.Serving.Succession
import GridLoad.Proofs.Zone.Loading

/-!
Reloads, by themselves and among other requests. Of the registries served one after the other each bears a higher number
than the one before, no number goes to two of them, and a reload that fails leaves everything but the counter as it was.
-/

set_option autoImplicit false

namespace GridLoad

open Program

/-! A reload with nobody else about. -/

namespace Engine

variable {e e' : Engine} {caller : Caller} {deadline : Option Nat} {α : Type}

theorem run_models (root : Path) (n : Nat) (next : Option (Except String Registry) → Serve α) :
    e.run caller deadline (wait (.models root n) >>= next) =
      e.tick.run caller deadline (next (some (Registry.ofDirectory e.files root n))) := rfl

theorem run_reload_turn (free : e.reloading = none) (next : Option Unit → Serve α) :
    e.run caller deadline (wait .reloadTurn >>= next) =
      { e.tick with reloading := some caller }.run caller deadline (next (some ())) := by
  have given : e.tick.awaitSince caller deadline e.clock.millis .reloadTurn =
      ({ e.tick with reloading := some caller }, some ()) := by
    simp [awaitSince, attempt, tick, free]
  rw [run_wait, given]

-- What is said of a registry once it is served.
theorem run_shown (caller : Caller) (deadline : Option Nat) (r : Registry) (counter : Counter) (event : Event) (value : α)
    (e : Engine) :
    e.Untouched (e.run caller deadline (do
      Service.announce r
      act (.count counter)
      act (.note event)
      pure value)).1 ∧
    (e.run caller deadline (do
      Service.announce r
      act (.count counter)
      act (.note event)
      pure value)).2 = value := by
  have quiet : Meets quietly (fun _ _ => True) (do
      Service.announce r
      act (.count counter)
      act (.note event)
      pure value) [] := by
    refine meets_bind (announce_quiet r []) fun u _ _ => ?_
    refine meets_first ⟨_, rfl, fun _ => ⟨rfl, rfl, rfl, rfl, rfl, rfl⟩⟩ fun _ _ => ?_
    refine meets_first ⟨_, rfl, fun _ => ⟨rfl, rfl, rfl, rfl, rfl, rfl⟩⟩ fun _ _ => ?_
    exact meets_pure trivial
  refine ⟨run_untouched quiet e, ?_⟩
  rw [run_bind, run_act, run_act, run_pure]

-- Another registry is served, and what was computed with other registries is dropped.
structure Rereads (e e' : Engine) (loaded : Registry) : Prop where
  current : e'.publication.current = loaded
  cache : e'.cache = e.cache.retain loaded.generation
  captures : e'.captures = e.captures
  callers : e'.callers = e.callers
  files : e'.files = e.files
  source : e'.source = e.source

theorem rereads_untouched {e'' : Engine} {loaded : Registry} (rereads : e.Rereads e' loaded)
    (untouched : e'.Untouched e'') : e.Rereads e'' loaded where
  current := (congrArg Publication.current untouched.publication).trans rereads.current
  cache := untouched.cache.trans rereads.cache
  captures := untouched.captures.trans rereads.captures
  callers := untouched.callers.trans rereads.callers
  files := untouched.files.trans rereads.files
  source := untouched.source.trans rereads.source

-- What a report says after that.
def reportOf (previous loaded : Registry) (e : Engine) : ReloadReport :=
  ⟨previous.generation, loaded.generation, loaded.availableZones, loaded.unavailableZones,
    e.cache.size - (e.cache.retain loaded.generation).size⟩

theorem replace_read (caller : Caller) (deadline : Option Nat) (previous : Registry) {loaded : Registry} {root : Path}
    (read : Registry.ofDirectory e.files root e.publication.next = .ok loaded) :
    e.Rereads (e.run caller deadline (Service.replaceRegistry previous root)).1 loaded ∧
      (e.run caller deadline (Service.replaceRegistry previous root)).2 = .ok (e.reportOf previous loaded) := by
  unfold Service.replaceRegistry
  rw [run_act, run_models]
  simp only [perform, tick, Publication.allocate, read]
  rw [run_act, run_act, run_act, run_act]
  simp only [perform, tick, Publication.publish]
  refine ⟨rereads_untouched ?_ (run_shown _ _ _ _ _ _ _).1, (run_shown _ _ _ _ _ _ _).2⟩
  exact ⟨rfl, rfl, rfl, rfl, rfl, rfl⟩

theorem replace_unread (caller : Caller) (deadline : Option Nat) (previous : Registry) {root : Path} {reason : String}
    (unread : Registry.ofDirectory e.files root e.publication.next = .error reason) :
    e.SameService (e.run caller deadline (Service.replaceRegistry previous root)).1 ∧
      (e.run caller deadline (Service.replaceRegistry previous root)).2 = fail (.configuration reason) := by
  unfold Service.replaceRegistry
  rw [run_act, run_models]
  simp only [perform, tick, Publication.allocate, unread]
  rw [run_act, run_act, run_pure]
  exact ⟨⟨rfl, rfl, rfl, rfl⟩, rfl⟩

-- The state of a reload that has the turn and has seen which registry is served.
def takeTurn (caller : Caller) (e : Engine) : Engine :=
  { e with reloading := some caller, clock := { e.clock with instant := e.clock.instant + 1 + 1 } }

theorem run_rootless (free : e.reloading = none) (rootless : e.publication.current.root = none) :
    e.run caller deadline Service.reload = (e.takeTurn caller).run caller deadline (do
      act .endReload
      pure (fail (.configuration "registry was not loaded from a directory"))) := by
  unfold Service.reload
  rw [run_reload_turn free]
  dsimp only
  rw [run_act]
  simp only [perform, tick, rootless, takeTurn, pure_bind]

theorem run_rooted {root : Path} (free : e.reloading = none) (rooted : e.publication.current.root = some root) :
    e.run caller deadline Service.reload = (e.takeTurn caller).run caller deadline (do
      let outcome ← Service.replaceRegistry e.publication.current root
      act .endReload
      pure outcome) := by
  unfold Service.reload
  rw [run_reload_turn free]
  dsimp only
  rw [run_act]
  simp only [perform, tick, rooted, takeTurn]

theorem reload_read (caller : Caller) (deadline : Option Nat) {root : Path} {loaded : Registry} (free : e.reloading = none)
    (rooted : e.publication.current.root = some root)
    (read : Registry.ofDirectory e.files root e.publication.next = .ok loaded) :
    e.Rereads (e.run caller deadline Service.reload).1 loaded ∧
      (e.run caller deadline Service.reload).2 = .ok (e.reportOf e.publication.current loaded) := by
  have taken : Registry.ofDirectory (e.takeTurn caller).files root (e.takeTurn caller).publication.next = .ok loaded := read
  obtain ⟨rereads, told⟩ := replace_read caller deadline e.publication.current taken
  rw [run_rooted free rooted, run_bind, run_act, run_pure]
  simp only [perform, tick]
  exact ⟨⟨rereads.current, rereads.cache, rereads.captures, rereads.callers, rereads.files, rereads.source⟩, told⟩

theorem reload_unread (caller : Caller) (deadline : Option Nat) {root : Path} {reason : String} (free : e.reloading = none)
    (rooted : e.publication.current.root = some root)
    (unread : Registry.ofDirectory e.files root e.publication.next = .error reason) :
    e.SameService (e.run caller deadline Service.reload).1 ∧
      (e.run caller deadline Service.reload).2 = fail (.configuration reason) := by
  have taken : Registry.ofDirectory (e.takeTurn caller).files root (e.takeTurn caller).publication.next =
      .error reason := unread
  obtain ⟨same, told⟩ := replace_unread caller deadline e.publication.current taken
  rw [run_rooted free rooted, run_bind, run_act, run_pure]
  simp only [perform, tick]
  exact ⟨⟨same.current, same.cache, same.captures, same.health⟩, told⟩

theorem reload_rootless (caller : Caller) (deadline : Option Nat) (free : e.reloading = none)
    (rootless : e.publication.current.root = none) :
    e.SameService (e.run caller deadline Service.reload).1 ∧ (e.run caller deadline Service.reload).2 =
      fail (.configuration "registry was not loaded from a directory") := by
  rw [run_rootless free rootless, run_act, run_pure]
  exact ⟨⟨rfl, rfl, rfl, rfl⟩, rfl⟩

theorem reload_busy {other : Caller} (busy : e.reloading = some other) :
    (e.run caller deadline Service.reload).2 = .error .outOfTime := by
  have pending : (e.tick.awaitSince caller deadline e.clock.millis .reloadTurn).2 = none := by
    simp [awaitSince, attempt, tick, busy]
  unfold Service.reload
  rw [run_wait, pending]
  rfl

theorem reload_served {report : ReloadReport} (ran : e.run caller deadline Service.reload = (e', .ok report)) :
    ∃ root loaded, e.reloading = none ∧ e.publication.current.root = some root ∧
      Registry.ofDirectory e.files root e.publication.next = .ok loaded ∧ e.Rereads e' loaded ∧
      report = e.reportOf e.publication.current loaded := by
  have outcome : (e.run caller deadline Service.reload).2 = .ok report := by rw [ran]
  cases free : e.reloading with
  | some other =>
      rw [reload_busy free] at outcome
      cases outcome
  | none =>
      cases rooted : e.publication.current.root with
      | none =>
          rw [(reload_rootless caller deadline free rooted).2] at outcome
          cases outcome
      | some root =>
          cases read : Registry.ofDirectory e.files root e.publication.next with
          | error reason =>
              rw [(reload_unread caller deadline free rooted read).2] at outcome
              cases outcome
          | ok loaded =>
              obtain ⟨rereads, told⟩ := reload_read caller deadline free rooted read
              rw [ran] at rereads told
              exact ⟨root, loaded, rfl, rfl, read, rereads, Except.ok.inj told⟩

theorem reload_failed {halt : Halt} (free : e.reloading = none)
    (ran : e.run caller deadline Service.reload = (e', .error halt)) :
    (∃ reason, halt = .failed (.configuration reason)) ∧ e.SameService e' := by
  cases rooted : e.publication.current.root with
  | none =>
      obtain ⟨same, told⟩ := reload_rootless caller deadline free rooted
      rw [ran] at same told
      exact ⟨⟨_, Except.error.inj told⟩, same⟩
  | some root =>
      cases read : Registry.ofDirectory e.files root e.publication.next with
      | error reason =>
          obtain ⟨same, told⟩ := reload_unread caller deadline free rooted read
          rw [ran] at same told
          exact ⟨⟨reason, Except.error.inj told⟩, same⟩
      | ok loaded =>
          obtain ⟨_, told⟩ := reload_read caller deadline free rooted read
          rw [ran] at told
          cases told

end Engine

namespace Table

variable {κ α : Type} [LT κ]

theorem keys_filter (t : Table κ α) (p : κ → Bool) : (t.filter fun key _ => p key).keys = t.keys.filter p := by
  simp only [keys, filter, List.filter_map]
  rfl

end Table

theorem retain_index {c : Cache} {n : Nat} {key : Key} {id : SlotId} :
    (c.retain n).index.get? key = some id ↔ c.index.get? key = some id ∧ key.generation = n := by
  simp [Cache.retain, Table.get_filter_iff]

theorem retain_drops (c : Cache) (n : Nat) : c.size - (c.retain n).size =
    (c.index.keys.filter fun key => !(c.retain n).index.contains key).length := by
  have counted := c.index.size_filter fun key _ => !decide (key.generation = n)
  rw [Table.keys_filter] at counted
  simp only [Bool.not_not] at counted
  have dropped : (c.index.keys.filter fun key => !(c.retain n).index.contains key) =
      c.index.keys.filter fun key => !decide (key.generation = n) := by
    refine List.filter_congr fun key member => congrArg _ ?_
    obtain ⟨id, found⟩ := Table.mem_keys.mp member
    rw [Bool.eq_iff_iff, Table.contains, Option.isSome_iff_exists]
    simp [retain_index, found]
  rw [dropped]
  change c.index.size - (c.index.filter fun key _ => decide (key.generation = n)).size = _
  omega

theorem available_partition (r : Registry) : (r.availableZones ++ r.unavailableZones).Perm r.zones.keys := by
  simp only [Registry.availableZones, Registry.unavailableZones, Table.keys, Table.filter]
  rw [← List.map_append]
  exact (List.filter_append_perm _ _).map _

-- What a reload comes to with nobody else about: the registry of the report is served, and of the cache there is left
-- what was computed with that registry. The zones of the registry are each listed once, and every token stands for
-- what it stood for.
structure Engine.Replaced (e e' : Engine) (report : ReloadReport) : Prop where
  previous : report.previous = e.publication.current.generation
  generation : report.generation = e'.publication.current.generation
  only : ∀ key id, e'.cache.index.get? key = some id →
    key.generation = report.generation ∧ e.cache.index.get? key = some id
  dropped : report.dropped = (e.cache.index.keys.filter fun key => !e'.cache.index.contains key).length
  zones : (report.available ++ report.unavailable).Perm e'.publication.current.zones.keys
  once : e'.publication.current.zones.keys.Nodup
  tokens : ∀ now token, e'.captures.resolve? now token = e.captures.resolve? now token

theorem reload_replaces {e e' : Engine} {caller : Caller} {deadline : Option Nat} {report : ReloadReport}
    (ran : e.run caller deadline Service.reload = (e', .ok report)) : e.Replaced e' report := by
  obtain ⟨root, loaded, _, _, read, rereads, rfl⟩ := Engine.reload_served ran
  refine ⟨rfl, congrArg Registry.generation rereads.current.symm, fun key id found => ?_, ?_, ?_, Table.keys_nodup _,
    fun now token => ?_⟩
  · rw [rereads.cache] at found
    exact (retain_index.mp found).symm
  · rw [rereads.cache]
    exact retain_drops e.cache loaded.generation
  · rw [rereads.current]
    exact available_partition loaded
  · rw [rereads.captures]

namespace World

-- A reload has come to its end, with these exchanges and this outcome, by itself or for a request that goes on to
-- answer with it.
def Reloaded (w : World) (t : Transcript) (out : Outcome ReloadReport) : Prop :=
  ∃ f ∈ w.flights, f.transcript = t ∧ Leads Service.reload t (.done out)

variable {v : Service} {first : Registry} {w : World} {t : Transcript} {out : Outcome ReloadReport}

theorem answered_reloaded (reachable : Reachable v first w) (answered : w.Answered .reload t out) : w.Reloaded t out := by
  obtain ⟨caller, dropped, member⟩ := answered
  exact ⟨_, member, rfl, ((reachable_sound reachable).flights _ member).led⟩

theorem web_reloaded (reachable : Reachable v first w) {request : Web.Request} (reloads : request.Reloads)
    {response : Outcome Web.Response} (answered : w.Answered (.web request) t response) :
    ∃ out, w.Reloaded t out ∧ response = Web.respond ReloadReport.toJson out := by
  obtain ⟨caller, dropped, member⟩ := answered
  have led := ((reachable_sound reachable).flights _ member).led
  have whole : Meets anyhow (fun u response => ∃ out, Leads Service.reload u (.done out) ∧
      response = Web.respond ReloadReport.toJson out) (Web.Api.answer v request) [] := by
    rw [web_reload_program reloads]
    refine meets_bind (meets_traced (meets_anyhow _ [])) fun u out traced => ?_
    obtain ⟨_, own, rfl, leads⟩ := traced
    exact ⟨out, leads, rfl⟩
  obtain ⟨out, leads, told⟩ := meets_leads whole led fun _ _ => trivial
  exact ⟨out, ⟨_, member, rfl, leads⟩, told⟩

theorem reloaded_concluded (reachable : Reachable v first w) (reloaded : w.Reloaded t out) : Concluded t out := by
  obtain ⟨f, member, rfl, leads⟩ := reloaded
  have sound := (reachable_sound reachable).flights f member
  have met : Meets (w.ledger.turns v.setup) Concluded Service.reload [] := Ledger.turns_reload
  exact meets_leads met leads sound.vouched

theorem reloaded_follows (reachable : Reachable v first w) (counted : w.Counted first) {report : ReloadReport}
    (reloaded : w.Reloaded t (.ok report)) :
    ∃ previous r, Follows previous r w.history.published ∧ report.Tells previous r := by
  obtain ⟨previous, r, ended, tells⟩ := reloaded_concluded reachable reloaded
  obtain ⟨f, member, rfl, _⟩ := reloaded
  have followed := (reachable_succession reachable counted).followed f member
  rw [ended] at followed
  exact ⟨previous, r, followed, tells⟩

-- Another request served a registry of that number: but the number was drawn by one only.
theorem spared_unserved (numbered : Numbered first w) {f : Flight} (member : f ∈ w.flights) (spared : Spared f.transcript)
    {n : Nat} (drew : f.Drew n) {r : Registry} (served : r ∈ w.history.published) : r.generation ≠ n := by
  rintro rfl
  obtain ⟨later, split, servers⟩ := numbered.servers
  rcases List.mem_cons.mp (split ▸ served) with rfl | after
  · exact Nat.lt_irrefl _ (numbered.between f member _ drew).1
  · obtain ⟨g, member', serving, drew'⟩ := servers r after
    obtain ⟨i, place⟩ := List.getElem?_of_mem member
    obtain ⟨j, place'⟩ := List.getElem?_of_mem member'
    obtain rfl := numbered.apart i j f g place place' _ drew drew'
    obtain rfl := Option.some.inj (place.symm.trans place')
    exact spared.unserved r serving

theorem later_drawn (numbered : Numbered first w)
    (numbers : w.history.numbers = List.range' (first.generation + 1) w.history.numbers.length) {r : Registry}
    (later : r ∈ w.history.published.tail) : r.generation ∈ w.history.numbers := by
  obtain ⟨rest, split, servers⟩ := numbered.servers
  rw [split] at later
  obtain ⟨f, member, _, drew⟩ := servers r later
  have between := numbered.between f member _ drew
  rw [numbers, List.mem_range'_1]
  omega

-- Models are read once, under a number that the same request has drawn.
theorem read_drawn (reachable : Reachable v first w) {f : Flight} (member : f ∈ w.flights) {early late : Transcript}
    {root : Path} {n : Nat} {answer : Option (Except String Registry)}
    (split : f.transcript = early ++ ⟨.wait (.models root n), answer⟩ :: late) : f.Drew n ∧ Unread early := by
  have sound := (reachable_sound reachable).flights f member
  obtain ⟨unread, previous, drawn⟩ : Unread ([] ++ early) ∧ ∃ previous, turn ([] ++ early) = .drawn previous n :=
    meets_kept (Ledger.turns_ask v f.ask) sound.led sound.vouched split
  refine ⟨?_, unread⟩
  unfold Flight.Drew
  rw [split]
  exact List.mem_append_left _ (turn_drawn drawn)

end World

/-- The registries are served in the order of their numbers. Numbers are drawn one after the other, each by one request,
which reads models under it at most once. A reload that succeeds tells of the registry it serves and of the one served
right before; one that fails does nothing that changes what is served, the cache, the tokens or the health, and under its
number no registry is ever served. With nobody else about, what is dropped is what is left out. -/
theorem reloads_atomic {v : Service} {first : Registry} {w : World} (reachable : Reachable v first w)
    (counted : w.Counted first) :
    (w.history.published.Pairwise (fun r r' => r.generation < r'.generation) ∧
      w.history.published.getLast? = some w.engine.publication.current) ∧
    (w.history.numbers = List.range' (first.generation + 1) w.history.numbers.length ∧
      (∀ r ∈ w.history.published.tail, r.generation ∈ w.history.numbers) ∧
      (∀ (i j : Nat) (f g : Flight), w.flights[i]? = some f → w.flights[j]? = some g →
        ∀ n, f.Drew n → g.Drew n → i = j) ∧
      ∀ f ∈ w.flights, ∀ early late root n answer,
        f.transcript = early ++ ⟨.wait (.models root n), answer⟩ :: late → f.Drew n ∧ Unread early) ∧
    (∀ t report, w.Reloaded t (.ok report) →
      ∃ previous r, Follows previous r w.history.published ∧ report.Tells previous r) ∧
    (∀ t halt, w.Reloaded t (.error halt) → Refuses t halt ∧ (∀ x ∈ t, x.question.Harmless) ∧
      ∀ n, ⟨.act .generation, n⟩ ∈ t → ∀ r ∈ w.history.published, r.generation ≠ n) ∧
    ((∀ t out, w.Answered .reload t out → w.Reloaded t out) ∧
      ∀ request : Web.Request, request.Reloads → ∀ t response, w.Answered (.web request) t response →
        ∃ out, w.Reloaded t out ∧ response = Web.respond ReloadReport.toJson out) ∧
    ∀ (e e' : Engine) (caller : Caller) (deadline : Option Nat),
      (∀ report, e.run caller deadline Service.reload = (e', .ok report) → e.Replaced e' report) ∧
      ∀ halt, e.reloading = none → e.run caller deadline Service.reload = (e', .error halt) →
        (∃ reason, halt = .failed (.configuration reason)) ∧ e.SameService e' := by
  have numbered := reachable_numbered reachable counted
  have succession := reachable_succession reachable counted
  have numbers := reachable_numbers reachable counted
  refine ⟨⟨succession.rising, succession.last⟩, ⟨numbers, ?_, numbered.apart, ?_⟩, ?_, ?_, ⟨?_, ?_⟩, ?_⟩
  · exact fun r later => World.later_drawn numbered numbers later
  · exact fun f member early late root n answer split => World.read_drawn reachable member split
  · exact fun t report reloaded => World.reloaded_follows reachable counted reloaded
  · intro t halt reloaded
    obtain ⟨spared, refuses⟩ := World.reloaded_concluded reachable reloaded
    obtain ⟨f, member, rfl, _⟩ := reloaded
    exact ⟨refuses, spared.harmless, fun n drew r served => World.spared_unserved numbered member spared drew served⟩
  · exact fun t out answered => World.answered_reloaded reachable answered
  · exact fun request reloads t response answered => World.web_reloaded reachable reloads answered
  · exact fun e e' caller deadline => ⟨fun report => reload_replaces, fun halt free => Engine.reload_failed free⟩

-- A request that reads models gets these.
def World.reads (w : World) (i : Nat) (loaded : Registry) : World :=
  match w.flights[i]? with
  | some f =>
      match f.rest with
      | .ask (.wait (.models root n)) next =>
          w.exchange i f w.engine ⟨.wait (.models root n), some (.ok loaded)⟩ (next (some (.ok loaded)))
      | _ => w
  | none => w

def Flight.isReading (root : Path) (n : Nat) (f : Flight) : Bool :=
  match f.rest with
  | .ask (.wait (.models root' n')) _ => root' = root && n' = n && !f.dropped
  | _ => false

theorem reads_reachable {v : Service} {first : Registry} {w : World} (reachable : Reachable v first w) {i : Nat}
    {root : Path} {n : Nat} (reading : w.flights[i]?.any (Flight.isReading root n) = true) {loaded : Registry}
    (read : Registry.ofDirectory w.engine.files root n = .ok loaded) : Reachable v first (w.reads i loaded) := by
  obtain ⟨f, there, waits⟩ := (Option.any_eq_true _ _).mp reading
  unfold World.reads
  rw [there]
  unfold Flight.isReading at waits
  split at waits
  · rename_i root' n' next rest
    simp only [Bool.and_eq_true, decide_eq_true_eq, Bool.not_eq_true'] at waits
    obtain ⟨⟨rfl, rfl⟩, live⟩ := waits
    simp only [rest]
    exact .further reachable (.answered there live rest (congrArg some read))
  · cases waits

namespace Sample

/-! Models that are read from files, and read again. -/

def storedRegistry (generation : Nat) : Registry :=
  { generation := generation, root := some modelRoot, zones := zonesOf modelRoot modelEntries }

@[irreducible] def stored : Running :=
  (launch ⟨{}, groups⟩ (storedRegistry 1) source modelFiles { wall := morning }).toOption.getD default

def reading : World :=
  (World.first (storedRegistry 1) stored.engine).play stored.service (.arrive .reload :: List.replicate 3 (.go 0))

@[irreducible] def reread : World :=
  (reading.reads 0 (storedRegistry 2)).play stored.service (List.replicate 20 (.go 0))

def renews : Outcome ReloadReport → Bool
  | .ok report => report.previous = 1 && report.generation = 2
  | .error _ => false

-- A service whose registry did not come from a directory.
@[irreducible] def unrooted : World := played {} morning (later 0 .reload)

theorem reread_evaluated :
    (reading.flights[0]?.any (Flight.isReading modelRoot 2) = true ∧ reread.answers .reload renews = true ∧
      reread.history.numbers = [2]) ∧
    (unrooted.answers .reload (fun out => !out.toBool) = true ∧ unrooted.history.numbers = []) ∧
    stored.engine.reloading = none := by decide +kernel

theorem stored_started :
    launch ⟨{}, groups⟩ (storedRegistry 1) source modelFiles { wall := morning } = .ok stored := by
  obtain ⟨_, _, _, _, valid, _⟩ := evaluated
  unfold stored
  exact launch_valid valid

theorem stored_files : stored.engine.files = modelFiles := by
  unfold stored
  rfl

theorem reread_reachable : Reachable stored.service (storedRegistry 1) reread := by
  obtain ⟨_, _, accepted, _⟩ := evaluated
  obtain ⟨⟨reads, _⟩, _⟩ := reread_evaluated
  have begun : Reachable stored.service (storedRegistry 1) reading :=
    play_reachable (.launched accepted stored_started) _
  have files : reading.engine.files = modelFiles := by
    unfold reading stored
    rfl
  have read : Registry.ofDirectory reading.engine.files modelRoot 2 = .ok (storedRegistry 2) := by
    rw [files]
    exact directory_loaded model_files_listed 2
  unfold reread
  exact play_reachable (reads_reachable begun reads read) _

theorem unrooted_reachable : Reachable (running {} morning).service (registry 1) unrooted := by
  obtain ⟨_, _, _, _, valid, _⟩ := evaluated
  unfold unrooted
  exact played_reachable valid morning _

-- A reload by itself.
theorem stored_reloads : ∃ e report, stored.engine.run 0 none Service.reload = (e, .ok report) := by
  obtain ⟨_, _, free⟩ := reread_evaluated
  have begins := launch_begins stored_started
  have read : Registry.ofDirectory stored.engine.files modelRoot stored.engine.publication.next =
      .ok (storedRegistry stored.engine.publication.next) := by
    rw [stored_files]
    exact directory_loaded model_files_listed _
  have rooted : stored.engine.publication.current.root = some modelRoot := by
    rw [begins.publication]
    rfl
  exact ⟨_, _, Prod.ext rfl (Engine.reload_read 0 none free rooted read).2⟩

theorem models_reread :
    reread.Counted (storedRegistry 1) ∧ unrooted.Counted (registry 1) ∧
    (∃ t report previous r, reread.Answered .reload t (.ok report) ∧ Follows previous r reread.history.published ∧
      report.Tells previous r ∧ previous.generation = 1 ∧ r.generation = 2) ∧
    (∃ t halt, unrooted.Answered .reload t (.error halt) ∧ Refuses t halt) ∧
    ∃ e report, stored.engine.run 0 none Service.reload = (e, .ok report) ∧ stored.engine.Replaced e report := by
  obtain ⟨⟨_, renewed, numbers⟩, ⟨refused, none⟩, _⟩ := reread_evaluated
  have counted : reread.Counted (storedRegistry 1) := by
    rw [World.Counted, numbers]
    decide
  have counted' : unrooted.Counted (registry 1) := by
    rw [World.Counted, none]
    decide
  obtain ⟨_, _, succeeds, _, ⟨asked, _⟩, alone⟩ := reloads_atomic reread_reachable counted
  obtain ⟨_, _, _, fails, ⟨asked', _⟩, _⟩ := reloads_atomic unrooted_reachable counted'
  refine ⟨counted, counted', ?_, ?_, ?_⟩
  · obtain ⟨t, out, answered, renews⟩ := answers_answered renewed
    cases out with
    | error halt => cases renews
    | ok report =>
        obtain ⟨from1, to2⟩ := Bool.and_eq_true_iff.mp renews
        obtain ⟨previous, r, follows, tells⟩ := succeeds t report (asked t _ answered)
        exact ⟨t, report, previous, r, answered, follows, tells, tells.previous.symm.trans (of_decide_eq_true from1),
          tells.generation.symm.trans (of_decide_eq_true to2)⟩
  · obtain ⟨t, out, answered, failed⟩ := answers_answered refused
    cases out with
    | ok report => cases failed
    | error halt => exact ⟨t, halt, answered, (fails t halt (asked' t _ answered)).1⟩
  · obtain ⟨e, report, ran⟩ := stored_reloads
    exact ⟨e, report, ran, (alone _ e 0 Option.none).1 report ran⟩

end Sample

end GridLoad
