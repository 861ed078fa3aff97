import GridLoad.Proofs.Serving.Outcomes
import GridLoad.Proofs.Serving.Questions
import GridLoad.Proofs.Serving.Store

/-!
Programs that are run to their end with nobody else about. Each question leaves the state sound, so that a run comes to
what its program is to come to; a run that asks the store for a snapshot is the same in two states with the same store.
-/

set_option autoImplicit false

namespace GridLoad

open Program

namespace Engine

variable {e e' e'' : Engine} {caller : Caller} {deadline : Option Nat} {α β : Type}

theorem run_bind (p : Serve β) (f : β → Serve α) (e : Engine) : e.run caller deadline (p >>= f) =
    (e.run caller deadline p).1.run caller deadline (f (e.run caller deadline p).2) := by
  change e.run caller deadline (p.bind f) = _
  induction p generalizing e with
  | done value => rfl
  | ask q next ih =>
      cases q with
      | act a => exact ih _ _
      | wait w => exact ih _ _

theorem run_wait (w : Wait) (next : Option w.Answer → Serve α) : e.run caller deadline (wait w >>= next) =
    (e.tick.awaitSince caller deadline e.clock.millis w).1.run caller deadline
      (next (e.tick.awaitSince caller deadline e.clock.millis w).2) := rfl

theorem run_bounded (setup : Setup) (operation : String) (body : Serve (Outcome α)) :
    (e.run caller deadline (bounded setup operation body)).2 = settled setup (e.run caller deadline body).2 := by
  unfold bounded
  rw [run_bind]
  match (e.run caller deadline body).2 with
  | .ok value => rfl
  | .error .pastCalendar => rfl
  | .error (.failed f) => rfl
  | .error .outOfTime => rfl

section Lasting

variable {kept : Engine → Engine → Prop}

-- What the passing of time and the ends of refreshes leave as it is.
structure Lasting (kept : Engine → Engine → Prop) : Prop where
  trans {e e' e'' : Engine} (first : kept e e') (second : kept e' e'') : kept e e''
  clocked (e : Engine) (clock : Clock) : kept e { e with clock := clock }
  ended (e : Engine) (id : RefreshId) : kept e (e.endRefresh id)

theorem lasting_before (lasting : Lasting kept) (e : Engine) (millis : Nat) : kept e (e.endRefreshesBefore millis) := by
  unfold endRefreshesBefore
  generalize (e.captures.fetching.filter fun f => f.2 < millis) = due
  induction due generalizing e with
  | nil => exact lasting.clocked e e.clock
  | cons f rest ih => exact lasting.trans (lasting.ended e f.1) (ih (e.endRefresh f.1))

theorem lasting_pass (lasting : Lasting kept) (e : Engine) (millis : Nat) : kept e (e.passTo millis) :=
  lasting.trans (lasting_before lasting e millis) (lasting.clocked _ _)

theorem lasting_await (lasting : Lasting kept) (deadline : Option Nat) {w : Wait} (tries : ∀ e, kept e (e.attempt caller w).1)
    (gives : ∀ e, kept e (e.giveUp caller w)) (e : Engine) (since : Nat) :
    kept e (e.awaitSince caller deadline since w).1 := by
  have tried := tries e
  unfold awaitSince
  split
  · rename_i e' answer attempted
    rw [attempted] at tried
    exact tried
  · rename_i e' attempted
    rw [attempted] at tried
    have passed := fun millis => lasting.trans tried (lasting_pass lasting e' millis)
    split
    · split
      · exact lasting.trans (passed _) (lasting.trans (lasting.ended _ _) (tries _))
      · exact passed _
      · exact passed _
    · exact lasting.trans (passed _) (gives _)

-- A run leaves alone what each of its questions leaves alone.
theorem lasting_run (lasting : Lasting kept) {allowed : Question → Prop}
    (acts : ∀ a, allowed (.act a) → ∀ e, kept e (e.perform a).1)
    (waits : ∀ w, allowed (.wait w) → ∀ e, kept e (e.attempt caller w).1 ∧ kept e (e.giveUp caller w))
    {p : Serve α} (asks : Asks allowed p) (e : Engine) : kept e (e.run caller deadline p).1 := by
  induction asks generalizing e with
  | done value => exact lasting.clocked e e.clock
  | @ask q next kind _ ih =>
      have ticked : kept e e.tick := lasting.clocked e _
      cases q with
      | act a => exact lasting.trans ticked (lasting.trans (acts a kind _) (ih _ _))
      | wait w =>
          have awaited := lasting_await lasting deadline (fun e => (waits w kind e).1) (fun e => (waits w kind e).2)
            e.tick e.clock.millis
          exact lasting.trans ticked (lasting.trans awaited (ih _ _))

end Lasting

section Sound

variable {setup : Setup} {h : History}

-- Some history goes with the state that is reached.
def PassesOn (setup : Setup) (e e' : Engine) : Prop :=
  ∀ h, e.Sound setup h → ∃ h', Passes setup h h' e e'

theorem passes_on_trans (first : PassesOn setup e e') (second : PassesOn setup e' e'') : PassesOn setup e e'' := by
  intro h sound
  obtain ⟨h', passes⟩ := first h sound
  obtain ⟨h'', further⟩ := second h' passes.sound
  exact ⟨h'', passes_trans passes further⟩

theorem passes_on_beside (cache : e'.cache = e.cache) (captures : e'.captures = e.captures)
    (publication : e'.publication = e.publication) : PassesOn setup e e' :=
  fun h sound => ⟨h, passes_beside sound cache captures publication⟩

theorem passes_on_end_refresh (e : Engine) (id : RefreshId) : PassesOn setup e (e.endRefresh id) := by
  have fetched : PassesOn setup e { e with captures := e.captures.endFetch e.now id } :=
    fun _ sound => ⟨_, end_fetch_passes id sound⟩
  have recorded : PassesOn setup { e with captures := e.captures.endFetch e.now id }
      { e with captures := (e.captures.endFetch e.now id).record e.now id } :=
    fun _ sound => ⟨_, record_passes id sound⟩
  have told : ∀ e' : Engine, PassesOn setup e' { e' with captures := e'.captures.report id } :=
    fun _ _ sound => ⟨_, report_passes id sound⟩
  unfold endRefresh
  simp only
  refine passes_on_trans (passes_on_trans fetched recorded) (passes_on_trans (passes_on_beside ?_ ?_ ?_) (told _))
  all_goals split <;> rfl

theorem passes_on_lasting : Lasting (PassesOn setup) :=
  ⟨passes_on_trans, fun _ _ => passes_on_beside rfl rfl rfl, passes_on_end_refresh⟩

theorem vouches_unanswered (Γ : Ledger) (w : Wait) : Γ.Vouches setup (.wait w) none := by
  cases w <;> trivial

theorem await_passes (caller : Caller) (deadline : Option Nat) (since : Nat) (w : Wait) (sound : e.Sound setup h) :
    ∃ h', Passes setup h h' e (e.awaitSince caller deadline since w).1 ∧
      ((e.awaitSince caller deadline since w).1.ledger h').Vouches setup (.wait w)
        (e.awaitSince caller deadline since w).2 := by
  have first := attempt_passes caller w sound
  unfold awaitSince
  split
  · rename_i e' answer attempted
    have given : (e.attempt caller w).2 = some answer := by rw [attempted]
    have vouched := attempt_vouched sound given
    rw [attempted] at first vouched
    exact ⟨h, first, vouched⟩
  · rename_i e' attempted
    rw [attempted] at first
    have passed : ∀ millis, ∃ h', Passes setup h h' e (e'.passTo millis) := by
      intro millis
      obtain ⟨h', further⟩ := lasting_pass passes_on_lasting e' millis h first.sound
      exact ⟨h', passes_trans first further⟩
    split
    · rename_i id patience _
      split
      · rename_i millis _
        obtain ⟨h', passes⟩ := passed millis
        obtain ⟨h'', ended⟩ := passes_on_end_refresh (e'.passTo millis) id h' passes.sound
        refine ⟨h'', passes_trans (passes_trans passes ended) (attempt_passes caller _ ended.sound), ?_⟩
        cases reported : (((e'.passTo millis).endRefresh id).attempt caller (.refreshed id patience)).2 with
        | none => exact vouches_unanswered _ _
        | some answer => exact attempt_vouched ended.sound reported
      · rename_i millis _
        obtain ⟨h', passes⟩ := passed millis
        exact ⟨h', passes, trivial⟩
      · rename_i millis _
        obtain ⟨h', passes⟩ := passed millis
        exact ⟨h', passes, vouches_unanswered _ _⟩
    · obtain ⟨h', passes⟩ := passed (deadline.getD e'.clock.millis)
      exact ⟨h', passes_trans passes (give_up_passes caller _ passes.sound), vouches_unanswered _ _⟩

-- A program that comes to what it is to come to, whatever it is answered within what is known, does so when it is
-- run.
theorem run_passes {post : Ledger → α → Prop} {p : Serve α} {t : Transcript} (caller : Caller) (deadline : Option Nat)
    (sound : e.Sound setup h)
    (met : ∀ Γ, (e.ledger h).Grows Γ → Meets (Γ.conduct setup) (fun _ value => post Γ value) p t) :
    ∃ h', Passes setup h h' e (e.run caller deadline p).1 ∧
      post ((e.run caller deadline p).1.ledger h') (e.run caller deadline p).2 := by
  induction p generalizing e h t with
  | done value => exact ⟨h, passes_refl sound, met _ Ledger.grows_refl⟩
  | ask q next ih =>
      have ticked : Passes setup h h e e.tick := passes_beside sound rfl rfl rfl
      -- What is asked next is asked with all that is known by then.
      have onward : ∀ {h₁ : History} {e₁ : Engine} {answer : q.Answer}, Passes setup h h₁ e e₁ →
          (e₁.ledger h₁).Vouches setup q answer →
          ∃ h', Passes setup h h' e (e₁.run caller deadline (next answer)).1 ∧
            post ((e₁.run caller deadline (next answer)).1.ledger h') (e₁.run caller deadline (next answer)).2 := by
        intro h₁ e₁ answer passes vouched
        obtain ⟨h', further, holds⟩ := ih answer passes.sound fun Γ grows =>
          (met Γ (Ledger.grows_trans passes.grows grows)).2 answer (Ledger.vouches_grows grows vouched)
        exact ⟨h', passes_trans passes further, holds⟩
      cases q with
      | act a =>
          obtain ⟨passes, vouched⟩ := perform_passes ticked.sound (met _ ticked.grows).1
          exact onward (passes_trans ticked passes) vouched
      | wait w =>
          obtain ⟨h₁, passes, vouched⟩ := await_passes caller deadline e.clock.millis w ticked.sound
          exact onward (passes_trans ticked passes) vouched

end Sound

section Store

-- The parts of a state that a snapshot is had from.
structure SameStore (e e' : Engine) : Prop where
  captures : e'.captures = e.captures
  source : e'.source = e.source
  files : e'.files = e.files
  clock : e'.clock = e.clock

-- What a request for a snapshot leaves as it is.
structure Beside (e e' : Engine) : Prop where
  cache : e'.cache = e.cache
  publication : e'.publication = e.publication

theorem beside_trans (first : e.Beside e') (second : e'.Beside e'') : e.Beside e'' :=
  ⟨second.cache.trans first.cache, second.publication.trans first.publication⟩

theorem beside_lasting : Lasting Beside where
  trans := beside_trans
  clocked _ _ := ⟨rfl, rfl⟩
  ended e id := by
    unfold endRefresh
    dsimp only
    split <;> exact ⟨rfl, rfl⟩

section

variable (same : e.SameStore e')

include same

theorem tick_same : e.tick.SameStore e'.tick :=
  ⟨same.captures, same.source, same.files, by simp only [tick, same.clock]⟩

theorem end_refresh_same (id : RefreshId) : (e.endRefresh id).SameStore (e'.endRefresh id) := by
  unfold endRefresh
  simp only [tick, now, same.captures, same.clock]
  split <;> exact ⟨rfl, same.source, same.files, rfl⟩

theorem end_refreshes_same (refreshes : List (RefreshId × Nat)) :
    (refreshes.foldl (fun e f => e.endRefresh f.1) e).SameStore (refreshes.foldl (fun e f => e.endRefresh f.1) e') := by
  induction refreshes generalizing e e' with
  | nil => exact same
  | cons f rest ih => exact ih (end_refresh_same same f.1)

theorem pass_to_same (millis : Nat) : (e.passTo millis).SameStore (e'.passTo millis) := by
  have ended : (e.endRefreshesBefore millis).SameStore (e'.endRefreshesBefore millis) := by
    unfold endRefreshesBefore
    rw [same.captures]
    exact end_refreshes_same same _
  exact ⟨ended.captures, ended.source, ended.files, by simp only [passTo, ended.clock]⟩

theorem look_same : e.look.1.SameStore e'.look.1 ∧ e'.look.2 = e.look.2 := by
  unfold look
  simp only [now, same.captures, same.clock]
  split
  · exact ⟨same, rfl⟩
  · simp only [joinRefresh, same.captures, same.source, same.files, same.clock]
    split
    · exact ⟨same, congrArg _ (congrArg _ same.captures)⟩
    · exact ⟨⟨rfl, rfl, rfl, rfl⟩, rfl⟩

theorem perform_same {a : Act} (kind : (Question.act a).OfStore) :
    (e.perform a).1.SameStore (e'.perform a).1 ∧ (e'.perform a).2 = (e.perform a).2 := by
  cases a with
  | look => exact look_same same
  | pin s =>
      refine ⟨⟨?_, same.source, same.files, same.clock⟩, rfl⟩
      simp only [perform, now, same.captures, same.clock]
  | pinned token =>
      refine ⟨same, ?_⟩
      simp only [perform, now, same.captures, same.clock]
  | forget token =>
      refine ⟨⟨?_, same.source, same.files, same.clock⟩, rfl⟩
      simp only [perform, same.captures]
  | wallTime => exact ⟨same, congrArg Clock.wall same.clock⟩
  | note event => exact ⟨⟨same.captures, same.source, same.files, same.clock⟩, rfl⟩
  | find component finding => exact ⟨⟨same.captures, same.source, same.files, same.clock⟩, rfl⟩
  | _ => exact absurd kind id

theorem await_same (caller caller' : Caller) (deadline : Option Nat) (since : Nat) {w : Wait} (kind : (Question.wait w).OfStore) :
    (e.awaitSince caller deadline since w).1.SameStore (e'.awaitSince caller' deadline since w).1 ∧
      (e'.awaitSince caller' deadline since w).2 = (e.awaitSince caller deadline since w).2 := by
  cases w with
  | refreshed id patience =>
      simp only [awaitSince, attempt, same.captures]
      cases e.captures.report? id with
      | some report => exact ⟨same, rfl⟩
      | none =>
          have ends : e'.waitEnd deadline since id patience = e.waitEnd deadline since id patience := by
            simp only [waitEnd, same.captures, same.clock]
          simp only [Option.map_none, ends]
          split
          · rename_i millis _
            have ended := end_refresh_same (pass_to_same same millis) id
            exact ⟨ended, by simp only [ended.captures]⟩
          · exact ⟨pass_to_same same _, rfl⟩
          · exact ⟨pass_to_same same _, rfl⟩
  | _ => exact absurd kind id

end

theorem perform_beside {a : Act} (kind : (Question.act a).OfStore) (e : Engine) : e.Beside (e.perform a).1 := by
  cases a with
  | look =>
      obtain ⟨_, _, same⟩ := look_apart e
      rw [same]
      exact ⟨rfl, rfl⟩
  | pin | pinned | forget | wallTime | note | find => exact ⟨rfl, rfl⟩
  | _ => exact absurd kind id

theorem run_beside {p : Serve α} (caller : Caller) (deadline : Option Nat) (asks : Asks Question.OfStore p) (e : Engine) :
    e.Beside (e.run caller deadline p).1 := by
  refine lasting_run beside_lasting (fun _ kind e => perform_beside kind e) (fun w kind e => ?_) asks e
  cases w with
  | refreshed => exact ⟨⟨rfl, rfl⟩, ⟨rfl, rfl⟩⟩
  | _ => exact absurd kind id

-- A request for a snapshot is answered alike in states with one store, whatever else they hold.
theorem run_same {p : Serve α} (caller caller' : Caller) (deadline : Option Nat) (asks : Asks Question.OfStore p)
    (same : e.SameStore e') :
    (e.run caller deadline p).1.SameStore (e'.run caller' deadline p).1 ∧
      (e'.run caller' deadline p).2 = (e.run caller deadline p).2 := by
  induction asks generalizing e e' with
  | done value => exact ⟨same, rfl⟩
  | @ask q next kind _ ih =>
      have ticked := tick_same same
      cases q with
      | act a =>
          obtain ⟨further, answer⟩ := perform_same ticked kind
          simp only [run, answer]
          exact ih _ further
      | wait w =>
          obtain ⟨further, answer⟩ := await_same ticked caller caller' deadline e.clock.millis kind
          simp only [run, same.clock, answer]
          exact ih _ further

end Store

end Engine

end GridLoad
