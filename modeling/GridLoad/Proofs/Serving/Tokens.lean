import GridLoad.Proofs.Feature.Retained
import GridLoad.Proofs.Program.Latest
import GridLoad.Proofs.Serving.EngineSteps
import GridLoad.Proofs.Serving.Refreshing

/-!
How long a token can be asked for: for as long as it is kept after its snapshot was captured, handed out or made known
for the last time, whatever else goes on.
-/

set_option autoImplicit false

namespace GridLoad

open GridLoad.Time (Instant)

-- The snapshot whose token is kept for another period.
def StoreEvent.touches? : StoreEvent → Option NamedSnapshot
  | .captured s => some s
  | .returned _ (.ok x) => some x.named
  | .used (.register _) s => some s
  | .used (.derive _ _ overrides) s => if overrides.isEmpty then none else some s
  | _ => none

-- A use that gives no token another period.
def StoreUse.isQuiet : StoreUse → Bool
  | .register _ => false
  | .derive _ _ overrides => overrides.isEmpty
  | _ => true

def touch? (token : Token) (e : Instant × StoreEvent) : Option (NamedSnapshot × Instant) :=
  (e.2.touches?.filter fun s => s.token = token).map (·, e.1)

-- Under this token the snapshot was touched at the instant, and none has been since.
def Touched (log : StoreLog) (token : Token) (s : NamedSnapshot) (t : Instant) : Prop :=
  Latest (touch? token) (fun _ => false) log (s, t)

-- A right answer for a token, by what had happened before.
structure Resolved (rules : CaptureRules) (log : StoreLog) (now : Instant) (token : Token)
    (out : Outcome NamedSnapshot) : Prop where
  known : ∀ s, out = .ok s ↔ ∃ t, Touched log token s t ∧ t ≤ now ∧ now ≤ t + rules.retention.nanos
  unknown : (∀ s, out ≠ .ok s) → out = fail (.unknownSnapshot token)
  own : ∀ s, out = .ok s → s.token = token ∧ s.snapshot.token = token

section

variable {log more : StoreLog} {token : Token} {s s' : NamedSnapshot} {t t' : Instant} {e : StoreEvent}

theorem touched_now (touches : e.touches? = some s) : Touched (log ++ [(t, e)]) s.token s t :=
  latest_set (by simp [touch?, touches])

theorem touched_other (touches : e.touches? = some s) (other : token ≠ s.token) :
    Touched (log ++ [(t, e)]) token s' t' ↔ Touched log token s' t' :=
  latest_unset (by simp [touch?, touches, Ne.symm other]) rfl

theorem touched_beside (quiet : ∀ e ∈ more, e.2.touches? = none) :
    Touched (log ++ more) token s t ↔ Touched log token s t := by
  induction more generalizing log with
  | nil => rw [List.append_nil]
  | cons e rest ih =>
      have skipped : Touched (log ++ [e]) token s t ↔ Touched log token s t :=
        latest_unset (by simp [touch?, quiet e List.mem_cons_self]) rfl
      rw [List.append_cons, ih fun e' member => quiet e' (List.mem_cons_of_mem e member), skipped]

theorem touched_once (first : Touched log token s t) (second : Touched log token s' t') : s = s' ∧ t = t' :=
  Prod.ext_iff.mp (latest_once first second)

end

-- The tokens held are those that history tells of, less such as have expired.
structure Kept (c : Captures) (log : StoreLog) (now : Instant) : Prop where
  held : ∀ token d, c.pinned? token = some d → Touched log token d.named d.instant
  gone : ∀ token s t, c.pinned? token = none → Touched log token s t → t + c.rules.retention.nanos < now
  past : ∀ token s t, Touched log token s t → t ≤ now

section

variable {c c' : Captures} {log more : StoreLog} {now later : Instant} {token : Token} {s : NamedSnapshot}

theorem kept_start (rules : CaptureRules) : Kept { rules := rules } [] now where
  held token d there := by cases there
  gone token s t _ touched := absurd touched latest_nil
  past token s t touched := absurd touched latest_nil

theorem kept_beside (kept : Kept c log now) (sheds : c.Sheds c' later) (order : now ≤ later)
    (quiet : ∀ e ∈ more, e.2.touches? = none) : Kept c' (log ++ more) later where
  held token d there := by
    rw [touched_beside quiet]
    rcases sheds.pins token with same | ⟨gone, _⟩
    · exact kept.held token d (same ▸ there)
    · rw [gone] at there
      cases there
  gone token s t gone touched := by
    rw [touched_beside quiet] at touched
    rw [sheds.rules]
    rcases sheds.pins token with same | ⟨_, d, there, expired⟩
    · exact Nat.lt_of_lt_of_le (kept.gone token s t (same ▸ gone) touched) order
    · obtain ⟨_, rfl⟩ := touched_once touched (kept.held token d there)
      exact Captures.expired_iff.mp expired
  past token s t touched := Nat.le_trans (kept.past token s t ((touched_beside quiet).mp touched)) order

theorem kept_pin {e : StoreEvent} (kept : Kept c log now) (rules : c'.rules = c.rules)
    (pins : c'.pins = c.pins.insert s.token ⟨s, later⟩) (order : now ≤ later) (touches : e.touches? = some s) :
    Kept c' (log ++ [(later, e)]) later := by
  have self : c'.pinned? s.token = some ⟨s, later⟩ := by
    rw [Captures.pinned?, pins, Table.get_insert_self]
  have other : ∀ token, token ≠ s.token → c'.pinned? token = c.pinned? token := by
    intro token apart
    rw [Captures.pinned?, pins, Table.get_insert_other _ _ _ _ apart]
    rfl
  refine ⟨fun token d there => ?_, fun token s' t gone touched => ?_, fun token s' t touched => ?_⟩
  · by_cases same : token = s.token
    · subst same
      cases self.symm.trans there
      exact touched_now touches
    · exact (touched_other touches same).mpr (kept.held token d (other token same ▸ there))
  · by_cases same : token = s.token
    · subst same
      cases self.symm.trans gone
    · rw [rules]
      have before := kept.gone token s' t (other token same ▸ gone) ((touched_other touches same).mp touched)
      exact Nat.lt_of_lt_of_le before order
  · by_cases same : token = s.token
    · subst same
      exact Nat.le_of_eq (touched_once touched (touched_now touches)).2
    · exact Nat.le_trans (kept.past token s' t ((touched_other touches same).mp touched)) order

-- Every token is found from its last touch on for as long as it is kept, and no longer.
theorem resolve_iff (kept : Kept c log now) (order : now ≤ later) : c.resolve? later token = some s ↔
    ∃ t, Touched log token s t ∧ t ≤ later ∧ later ≤ t + c.rules.retention.nanos := by
  rw [Captures.resolve_some]
  constructor
  · rintro ⟨d, there, soon, rfl⟩
    have touched := kept.held token d there
    exact ⟨d.instant, touched, Nat.le_trans (kept.past _ _ _ touched) order, soon⟩
  · rintro ⟨t, touched, _, soon⟩
    cases there : c.pinned? token with
    | none => exact absurd soon (Nat.not_le.mpr (Nat.lt_of_lt_of_le (kept.gone token s t there touched) order))
    | some d =>
        obtain ⟨rfl, rfl⟩ := touched_once touched (kept.held token d there)
        exact ⟨d, rfl, soon, rfl⟩

end

namespace Engine

theorem join_sound {known : NamedSnapshot → Prop} {e : Engine} (sound : e.captures.Sound known) :
    e.joinRefresh.1.captures.Sound known := by
  unfold joinRefresh
  split
  · exact sound
  · exact Captures.start_sound sound fun f failed => fetch_fails failed

theorem look_sound {known : NamedSnapshot → Prop} {e : Engine} (sound : e.captures.Sound known) :
    e.look.1.captures.Sound known := by
  unfold look
  split
  · exact sound
  · exact join_sound sound

end Engine

def NamedSnapshot.OwnToken (s : NamedSnapshot) : Prop := s.token = s.snapshot.token

theorem own_of (s : Snapshot) : (NamedSnapshot.of s).OwnToken := rfl

-- What the store says of a token.
def answerFor (token : Token) (found : Option NamedSnapshot) : Outcome NamedSnapshot :=
  found.elim (fail (.unknownSnapshot token)) .ok

theorem resolved_answer {c : Captures} {log : StoreLog} {now later : Instant} (kept : Kept c log now)
    (sound : c.Sound NamedSnapshot.OwnToken) (order : now ≤ later) (token : Token) :
    Resolved c.rules log later token (answerFor token (c.resolve? later token)) := by
  have known : ∀ s, answerFor token (c.resolve? later token) = .ok s ↔ c.resolve? later token = some s := by
    intro s
    cases c.resolve? later token with
    | none => simp [answerFor, fail]
    | some s' => simp [answerFor]
  refine ⟨fun s => (known s).trans (resolve_iff kept order), fun missing => ?_, fun s same => ?_⟩
  · cases found : c.resolve? later token with
    | none => rfl
    | some s => exact absurd ((known s).mpr found) (missing s)
  · obtain ⟨d, there, _, rfl⟩ := Captures.resolve_some.mp ((known s).mp same)
    obtain ⟨own, here⟩ := sound.pinned token d there
    exact ⟨here, own ▸ here⟩

theorem pinned_answer (e : Engine) (caller : Caller) (token : Token) :
    (e.run caller none (pinnedSnapshot token)).2 = answerFor token (e.captures.resolve? e.tick.now token) := by
  rw [Engine.run_pinned]
  unfold Captures.resolve?
  cases e.captures.pinned? token with
  | none => rfl
  | some d =>
      simp only [Option.filter_some]
      cases e.captures.isExpired e.tick.now d <;> rfl

/-! What a use does to the tokens. -/

section

variable {rules : CaptureRules} {w : Store} {u : StoreUse} {caller : Caller}

theorem quiet_untouched (quiet : u.isQuiet = true) (answer : u.Answer) :
    (StoreEvent.used u answer).touches? = none := by
  cases u with
  | register s => cases quiet
  | derive base zones overrides => exact if_pos quiet
  | _ => rfl

theorem quiet_sheds (quiet : u.isQuiet = true) :
    w.captures.Sheds (w.use rules u caller).captures (w.use rules u caller).now ∧
      w.now ≤ (w.use rules u caller).now := by
  show w.engine.captures.Sheds (w.engine.run caller none (u.program rules)).1.captures
      (w.engine.run caller none (u.program rules)).1.now ∧
    w.engine.now ≤ (w.engine.run caller none (u.program rules)).1.now
  cases u with
  | register s => cases quiet
  | derive base zones overrides =>
      have empty : overrides.isEmpty = true := quiet
      rw [StoreUse.program, Engine.run_derive, if_pos empty]
      exact ⟨Captures.sheds_same rfl rfl, Nat.le_refl _⟩
  | pinned token =>
      rw [StoreUse.program, Engine.run_pinned]
      split
      · exact ⟨Captures.sheds_same rfl rfl, Nat.le_succ _⟩
      · rename_i d there
        split
        · rename_i expired
          exact ⟨Captures.sheds_later (Captures.forget_sheds there expired) (Nat.le_succ _),
            Nat.le_succ_of_le (Nat.le_succ _)⟩
        · exact ⟨Captures.sheds_same rfl rfl, Nat.le_succ _⟩
  | checkFreshness s =>
      obtain ⟨same, order⟩ := @Engine.run_check w.engine caller rules s
      rw [StoreUse.program, same]
      exact ⟨Captures.sheds_same rfl rfl, order⟩
  | purge =>
      obtain ⟨dropped, order, _⟩ := @Engine.run_purge w.engine caller
      rw [StoreUse.program, dropped]
      refine ⟨Captures.sheds_later Captures.drop_expired_sheds order, Nat.le_trans ?_ order⟩
      exact Nat.le_add_right w.engine.now 3

theorem loud_touches (loud : u.isQuiet = false) : ∃ s : NamedSnapshot, s.OwnToken ∧
    (StoreEvent.used u (w.engine.run caller none (u.program rules)).2).touches? = some s ∧
    (w.use rules u caller).captures = w.captures.pin w.engine.tick.now s ∧
    (w.use rules u caller).now = w.engine.tick.now := by
  cases u with
  | register s => exact ⟨.of s, own_of s, rfl, rfl, rfl⟩
  | derive base zones overrides =>
      have full : ¬ overrides.isEmpty = true := Bool.eq_false_iff.mp loud
      have ran : w.engine.run caller none (StoreUse.program rules (.derive base zones overrides)) =
          w.engine.run caller none (registerSnapshot (base.snapshot.withOverrides zones overrides)) := by
        rw [StoreUse.program, Engine.run_derive, if_neg full]
      simp only [Store.captures, Store.now, Store.use, ran]
      exact ⟨_, own_of _, if_neg full, rfl, rfl⟩
  | _ => cases loud

theorem use_sound (sound : w.captures.Sound NamedSnapshot.OwnToken) :
    (w.use rules u caller).captures.Sound NamedSnapshot.OwnToken := by
  show (w.engine.run caller none (u.program rules)).1.captures.Sound _
  cases u with
  | register s => exact Captures.pin_sound sound rfl
  | derive base zones overrides =>
      rw [StoreUse.program, Engine.run_derive]
      split
      · exact sound
      · exact Captures.pin_sound sound rfl
  | pinned token =>
      rw [StoreUse.program, Engine.run_pinned]
      split
      · exact sound
      · split
        · exact Captures.forget_sound token sound
        · exact sound
  | checkFreshness s =>
      rw [StoreUse.program, (Engine.run_check rules s).1]
      exact sound
  | purge =>
      rw [StoreUse.program, Engine.run_purge.1]
      exact Captures.drop_expired_sound sound

end

theorem fetched_own {c : Captures} {id : RefreshId} {s : NamedSnapshot} (fetched : c.fetched? id = some s) :
    s.OwnToken := by
  unfold Captures.fetched? at fetched
  split at fetched
  · cases fetched
    exact own_of _
  · cases fetched

/-! Each step. -/

-- Whatever a call may hand out from here has its own token.
def Point.OwnTokens : Point → Prop
  | .looks => True
  | .awaits _ previous => ∀ s, previous = some s → s.OwnToken
  | .serves s _ => s.OwnToken
  | .ended _ => True

namespace Store

variable {rules : CaptureRules} {sourceName : String} {w w' : Store}

structure Tokens (rules : CaptureRules) (sourceName : String) (w : Store) : Prop where
  ruled : w.captures.rules = rules
  sound : w.captures.Sound NamedSnapshot.OwnToken
  calls : ∀ f ∈ w.calls, ∃ p : Point, f.rest = p.program rules sourceName ∧ p.OwnTokens
  kept : Kept w.captures w.log w.now
  answers : ∀ (q : Nat) (t : Instant) (token : Token) (out : Outcome NamedSnapshot),
    w.log[q]? = some (t, .used (.pinned token) out) → Resolved rules (w.log.take q) t token out

-- What one step does, as far as tokens are concerned.
structure Handles (rules : CaptureRules) (sourceName : String) (w w' : Store) (more : StoreLog) : Prop where
  log : w'.log = w.log ++ more
  single : more.length ≤ 1
  ruled : w'.captures.rules = w.captures.rules
  sound : w'.captures.Sound NamedSnapshot.OwnToken
  calls : ∀ f' ∈ w'.calls, (∃ f ∈ w.calls, f'.rest = f.rest) ∨
    ∃ p : Point, f'.rest = p.program rules sourceName ∧ p.OwnTokens
  kept : Kept w'.captures w'.log w'.now
  answers : ∀ (t : Instant) (token : Token) (out : Outcome NamedSnapshot), (t, .used (.pinned token) out) ∈ more →
    w.now ≤ t ∧ out = answerFor token (w.captures.resolve? t token)

theorem tokens_fresh {e : Engine} (empty : e.captures = { rules := rules }) :
    Tokens rules sourceName { engine := e } where
  ruled := congrArg (·.rules) empty
  sound := by
    show e.captures.Sound _
    rw [empty]
    exact Captures.sound_start rules
  calls f member := by cases member
  kept := by
    show Kept e.captures [] _
    rw [empty]
    exact kept_start rules
  answers q t token out there := by simp at there

theorem handles_tokens {more : StoreLog} (tokens : Tokens rules sourceName w)
    (handles : Handles rules sourceName w w' more) : Tokens rules sourceName w' where
  ruled := handles.ruled.trans tokens.ruled
  sound := handles.sound
  calls f' member := by
    rcases handles.calls f' member with ⟨f, before, same⟩ | anew
    · obtain ⟨p, here, own⟩ := tokens.calls f before
      exact ⟨p, same.trans here, own⟩
    · exact anew
  kept := handles.kept
  answers q t token out there := by
    rw [handles.log] at there ⊢
    rcases event_at handles.single there with ⟨old, before⟩ | ⟨new, before⟩
    · rw [before]
      exact tokens.answers q t token out old
    · obtain ⟨order, rfl⟩ := handles.answers t token out new
      rw [before, ← tokens.ruled]
      exact resolved_answer tokens.kept tokens.sound order token

-- What goes on beside the calls and tells nobody of a token.
theorem handles_beside {e : Engine} {more : StoreLog} (tokens : Tokens rules sourceName w) (single : more.length ≤ 1)
    (order : w.now ≤ e.now) (sheds : w.captures.Sheds e.captures e.now)
    (sound : e.captures.Sound NamedSnapshot.OwnToken) (quiet : ∀ e ∈ more, e.2.touches? = none)
    (silent : ∀ t u answer, (t, .used u answer) ∉ more) :
    Handles rules sourceName w { w with engine := e, log := w.log ++ more } more where
  log := rfl
  single := single
  ruled := sheds.rules
  sound := sound
  calls f member := .inl ⟨f, member, rfl⟩
  kept := kept_beside tokens.kept sheds order quiet
  answers t token out member := absurd member (silent t (.pinned token) out)

theorem handles_on {e : Engine} {i : Nat} {f : StoreCall} {p : Point} (tokens : Tokens rules sourceName w)
    (clock : e.now = w.now) (sheds : w.captures.Sheds e.captures w.now)
    (sound : e.captures.Sound NamedSnapshot.OwnToken) (own : p.OwnTokens) (pending : ∀ x, p ≠ .ended (.ok x)) :
    Handles rules sourceName w (w.goOn i f e (p.program rules sourceName))
      ((ending i (p.program rules sourceName)).map (w.now, ·)) where
  log := rfl
  single := by simpa using ending_single p
  ruled := sheds.rules
  sound := sound
  calls f' member := by
    rcases List.mem_or_eq_of_mem_set member with old | rfl
    · exact .inl ⟨f', old, rfl⟩
    · exact .inr ⟨p, rfl, own⟩
  kept := by
    show Kept e.captures (w.log ++ _) e.now
    rw [clock]
    refine kept_beside tokens.kept sheds (Nat.le_refl _) fun event member => ?_
    obtain ⟨event, listed, rfl⟩ := List.mem_map.mp member
    obtain ⟨out, rfl, rfl⟩ := mem_ending listed
    cases out with
    | ok x => exact absurd rfl (pending x)
    | error halt => rfl
  answers t token out member := by
    obtain ⟨event, listed, same⟩ := List.mem_map.mp member
    obtain ⟨out, _, rfl⟩ := mem_ending listed
    cases same

theorem handles_serve {i : Nat} {f : StoreCall} {s : NamedSnapshot} {sourceError : Option String}
    (tokens : Tokens rules sourceName w) (own : s.OwnToken) :
    Handles rules sourceName w
      (w.goOn i f { w.engine with captures := w.captures.pin w.now s } (.done (.ok ⟨s, sourceError⟩)))
      [(w.now, .returned i (.ok ⟨s, sourceError⟩))] where
  log := rfl
  single := Nat.le_refl 1
  ruled := rfl
  sound := Captures.pin_sound tokens.sound own
  calls f' member := by
    rcases List.mem_or_eq_of_mem_set member with old | rfl
    · exact .inl ⟨f', old, rfl⟩
    · exact .inr ⟨.ended (.ok ⟨s, sourceError⟩), rfl, trivial⟩
  kept := kept_pin tokens.kept rfl rfl (Nat.le_refl _) rfl
  answers t token out member := by simp at member

theorem look_quiet (sound : w.captures.Sound NamedSnapshot.OwnToken) : w.engine.look.1.now = w.now ∧
    w.captures.Sheds w.engine.look.1.captures w.now ∧ (Point.found w.engine.look.2).OwnTokens := by
  cases fresh : w.captures.fresh? w.now with
  | some s =>
      rw [Engine.look_fresh fresh]
      exact ⟨rfl, Captures.sheds_same rfl rfl, Captures.fresh_known sound fresh⟩
  | none =>
      have previous : ∀ s, w.captures.previous? = some s → s.OwnToken := fun s => Captures.previous_known sound
      cases live : w.captures.live? with
      | some id =>
          rw [Engine.look_joins fresh live]
          exact ⟨rfl, Captures.sheds_same rfl rfl, previous⟩
      | none =>
          obtain ⟨delay, answer, captures, clock, found⟩ := Engine.look_starts fresh live
          rw [found, captures]
          exact ⟨congrArg (·.instant) clock, Captures.sheds_same rfl rfl, previous⟩

theorem told_own (rules : CaptureRules) (sourceName : String) {previous : Option NamedSnapshot} {awaited : Awaited}
    (own : ∀ s, previous = some s → s.OwnToken)
    (came : ∀ s, awaited = .report (.outcome (.ok s)) → s.OwnToken) :
    (Point.told rules sourceName previous awaited).OwnTokens := by
  rcases Point.told_cases rules sourceName previous awaited with ⟨s, sourceError, told, source⟩ | ⟨_, halt, told⟩
  · rw [told]
    exact source.elim (own s) (came s)
  · rw [told]
    trivial

theorem handles_use (tokens : Tokens rules sourceName w) (u : StoreUse) (caller : Caller) :
    Handles rules sourceName w (w.use rules u caller)
      [(w.engine.tick.now, .used u (w.engine.run caller none (u.program rules)).2)] where
  log := rfl
  single := Nat.le_refl 1
  ruled := by
    cases quiet : u.isQuiet with
    | true => exact (quiet_sheds quiet).1.rules
    | false =>
        obtain ⟨s, _, _, pinned, _⟩ := loud_touches quiet
        exact congrArg (·.rules) pinned
  sound := use_sound tokens.sound
  calls f member := .inl ⟨f, member, rfl⟩
  kept := by
    cases quiet : u.isQuiet with
    | true =>
        obtain ⟨sheds, order⟩ := quiet_sheds quiet
        refine kept_beside tokens.kept sheds order fun e member => ?_
        rw [List.mem_singleton.mp member]
        exact quiet_untouched quiet _
    | false =>
        obtain ⟨s, _, touches, pinned, now⟩ := loud_touches quiet
        rw [now]
        exact kept_pin tokens.kept (congrArg (·.rules) pinned) (congrArg (·.pins) pinned) (Nat.le_succ _) touches
  answers t token out member := by
    cases List.mem_singleton.mp member
    exact ⟨Nat.le_succ _, pinned_answer w.engine caller token⟩

theorem handles_fetch (tokens : Tokens rules sourceName w) (id : RefreshId) :
    Handles rules sourceName w
      (w.withCaptures (w.captures.endFetch w.now id) ((w.captures.fetched? id).toList.map .captured))
      (((w.captures.fetched? id).toList.map .captured).map (w.now, ·)) where
  log := rfl
  single := by cases w.captures.fetched? id <;> simp
  ruled := Captures.end_fetch_rules
  sound := Captures.end_fetch_sound tokens.sound fun _ => fetched_own
  calls f member := .inl ⟨f, member, rfl⟩
  kept := by
    have pins := @Captures.end_fetch_pins w.captures w.now id
    show Kept (w.captures.endFetch w.now id) (w.log ++ _) w.now
    cases named : w.captures.fetched? id with
    | none =>
        rw [named] at pins
        exact kept_beside tokens.kept (Captures.sheds_same Captures.end_fetch_rules pins) (Nat.le_refl _) (by simp)
    | some s =>
        rw [named] at pins
        exact kept_pin tokens.kept Captures.end_fetch_rules pins (Nat.le_refl _) rfl
  answers t token out member := by simp at member

theorem step_handles (tokens : Tokens rules sourceName w) (step : StoreStep rules sourceName w w') :
    ∃ more, Handles rules sourceName w w' more := by
  have idle : w.captures.Sheds w.captures w.now := Captures.sheds_same rfl rfl
  cases step with
  | begins =>
      refine ⟨_, rfl, Nat.le_refl 1, rfl, tokens.sound, fun f' member => ?_,
        kept_beside tokens.kept idle (Nat.le_refl _) (by simp [StoreEvent.touches?]), by simp⟩
      rcases List.mem_append.mp member with old | new
      · exact .inl ⟨f', old, rfl⟩
      · rw [List.mem_singleton.mp new]
        exact .inr ⟨.looks, rfl, trivial⟩
  | @acts i f a next there live turn =>
      obtain ⟨p, here, own⟩ := tokens.calls f (List.mem_of_getElem? there)
      rcases Point.acts_from (here.symm.trans turn) w.engine with ⟨rfl, engine, further⟩ | ⟨s, err, rfl, engine, further⟩
      · rw [engine, further]
        obtain ⟨clock, sheds, found⟩ := look_quiet tokens.sound
        refine ⟨_, handles_on tokens clock sheds (Engine.look_sound tokens.sound) found fun x => ?_⟩
        cases w.engine.look.2 <;> nofun
      · rw [engine, further]
        exact ⟨_, handles_serve tokens own⟩
  | @answered i f wait next answer there live turn given =>
      obtain ⟨p, here, own⟩ := tokens.calls f (List.mem_of_getElem? there)
      obtain ⟨id, previous, report, rfl, engine, known, further⟩ := Point.answered_from (here.symm.trans turn) given
      rw [engine, further]
      have told : (Point.told rules sourceName previous (.report report)).OwnTokens := told_own rules sourceName own
        fun s same => by
          cases same
          exact (Captures.report_known tokens.sound known).1 s rfl
      exact ⟨_, handles_on tokens rfl idle tokens.sound told (Point.told_pending _ _)⟩
  | @late i f id patience next there live turn =>
      obtain ⟨p, here, own⟩ := tokens.calls f (List.mem_of_getElem? there)
      obtain ⟨previous, rfl, further⟩ := Point.late_from (here.symm.trans turn)
      rw [further]
      have told : (Point.told rules sourceName (some previous) .late).OwnTokens :=
        told_own rules sourceName own (by nofun)
      exact ⟨_, handles_on tokens rfl idle tokens.sound told (Point.told_pending _ _)⟩
  | @drops i f there =>
      refine ⟨[], (List.append_nil _).symm, Nat.zero_le 1, rfl, tokens.sound, fun f' member => .inl ?_, tokens.kept,
        by simp⟩
      rcases List.mem_or_eq_of_mem_set member with old | rfl
      · exact ⟨f', old, rfl⟩
      · exact ⟨f, List.mem_of_getElem? there, rfl⟩
  | fetched id => exact ⟨_, handles_fetch tokens id⟩
  | recorded id =>
      refine ⟨_, handles_beside tokens ?_ (Nat.le_refl _) Captures.record_sheds (Captures.record_sound tokens.sound) ?_
        (by simp)⟩
      · cases w.captures.installs? id <;> simp
      · simp [StoreEvent.touches?]
  | reported id =>
      exact ⟨_, handles_beside tokens (Nat.zero_le 1) (Nat.le_refl _) Captures.report_sheds
        (Captures.report_sound tokens.sound) (by simp) (by simp)⟩
  | @dies id r there live =>
      have died : (w.captures.setPhase id .died).Sound NamedSnapshot.OwnToken :=
        Captures.set_phase_sound tokens.sound (by nofun) (by nofun)
      exact ⟨_, handles_beside tokens (Nat.zero_le 1) (Nat.le_refl _) (Captures.sheds_same rfl rfl) died (by simp)
        (by simp)⟩
  | uses u caller => exact ⟨_, handles_use tokens u caller⟩
  | @outside e same later =>
      have sheds : w.captures.Sheds e.captures e.now := same ▸ Captures.sheds_same rfl rfl
      have handles : Handles rules sourceName w { w with engine := e, log := w.log ++ [] } [] :=
        handles_beside tokens (Nat.zero_le 1) later sheds (same ▸ tokens.sound) (by simp) (by simp)
      exact ⟨_, (List.append_nil w.log) ▸ handles⟩

theorem run_tokens (run : StoreRun rules sourceName w) : Tokens rules sourceName w := by
  induction run with
  | fresh empty => exact tokens_fresh empty
  | further before step ih =>
      obtain ⟨_, handles⟩ := step_handles ih step
      exact handles_tokens ih handles

-- Whoever asks for a token after a quiet use is answered as though there had been none.
theorem quiet_answers {u : StoreUse} {caller asker : Caller} {e e' : Engine} (quiet : u.isQuiet = true)
    (without : e.captures = w.captures) (after : e'.captures = (w.use rules u caller).captures)
    (together : e'.now = e.now) (order : (w.use rules u caller).now ≤ e'.now) (token : Token) :
    (e'.run asker none (pinnedSnapshot token)).2 = (e.run asker none (pinnedSnapshot token)).2 := by
  have later : (w.use rules u caller).now ≤ e'.tick.now := Nat.le_succ_of_le order
  have ticks : e'.tick.now = e.tick.now := congrArg Nat.succ together
  rw [pinned_answer, pinned_answer, after, without, Captures.sheds_resolve (quiet_sheds quiet).1 later, ticks]

theorem purge_counts (tokens : Tokens rules sourceName w) (caller : Caller) : ∃ dropped : List Token, dropped.Nodup ∧
    (w.engine.run caller none (StoreUse.purge.program rules)).2.2 = dropped.length ∧ ∀ token,
      (token ∈ dropped ↔ (w.captures.pinned? token).isSome = true ∧
        (w.use rules .purge caller).captures.pinned? token = none) ∧
      (token ∈ dropped ↔ (w.captures.pinned? token).isSome = true ∧
        ∃ s t, Touched w.log token s t ∧ t + rules.retention.nanos < w.engine.purging) := by
  obtain ⟨captures, _, counted⟩ := @Engine.run_purge w.engine caller
  obtain ⟨dropped, once, number, those⟩ := Captures.dropped_tokens w.captures w.engine.purging
  refine ⟨dropped, once, counted.trans number, fun token => ⟨?_, ?_⟩⟩
  · have left : (w.use rules .purge caller).captures.pinned? token =
        (w.captures.pinned? token).filter fun d => !w.captures.isExpired w.engine.purging d :=
      (congrArg (Captures.pinned? token) captures).trans (Captures.dropped_pinned _ token)
    rw [those, left]
    cases w.captures.pinned? token <;> simp
  · rw [those]
    cases there : w.captures.pinned? token with
    | none => simp
    | some d =>
        have touched := tokens.kept.held token d there
        simp only [Option.some.injEq, exists_eq_left', Option.isSome_some, true_and, Captures.expired_iff, tokens.ruled]
        constructor
        · intro expired
          exact ⟨d.named, d.instant, touched, expired⟩
        · rintro ⟨s, t, touched', expired⟩
          rwa [← (touched_once touched' touched).2]

end Store

open Store

/-- Whatever goes on in the store, a token is answered with the snapshot last touched under it from that touch on until
its time is over, and as unknown before and after. What only asks, compares or drops changes no answer that is given
later, and a purge tells how many tokens it drops, which are the expired ones. -/
theorem token_lifetimes {rules : CaptureRules} {sourceName : String} {w : Store} (run : StoreRun rules sourceName w) :
    (∀ q t token out, w.log[q]? = some (t, .used (.pinned token) out) → Resolved rules (w.log.take q) t token out) ∧
    (∀ u caller, u.isQuiet = true → ∀ (asker : Caller) (e e' : Engine), e.captures = w.captures →
      e'.captures = (w.use rules u caller).captures → e'.now = e.now → (w.use rules u caller).now ≤ e'.now →
      ∀ token, (e'.run asker none (pinnedSnapshot token)).2 = (e.run asker none (pinnedSnapshot token)).2) ∧
    ∀ caller, ∃ dropped : List Token, dropped.Nodup ∧
      (w.engine.run caller none (StoreUse.purge.program rules)).2.2 = dropped.length ∧ ∀ token,
        (token ∈ dropped ↔ (w.captures.pinned? token).isSome = true ∧
          (w.use rules .purge caller).captures.pinned? token = none) ∧
        (token ∈ dropped ↔ (w.captures.pinned? token).isSome = true ∧
          ∃ s t, Touched w.log token s t ∧ t + rules.retention.nanos < w.engine.purging) := by
  have tokens := run_tokens run
  refine ⟨tokens.answers, ?_, purge_counts tokens⟩
  intro u caller quiet asker e e' without after together order token
  exact quiet_answers quiet without after together order token

namespace Sample

-- A token is asked for in time, which does not extend its time, and again two seconds later.
def lapse : List StoreMove :=
  [.use (.register (snapshot morning)), .pass 3599000000000, .use (.pinned token), .pass 2000000000, .use (.pinned token)]

@[irreducible] def lapsed : Store := Store.play {} "static" { engine := { source := source } } lapse

theorem lapsed_run : StoreRun {} "static" lapsed := by
  rw [lapsed]
  exact Store.play_run (.fresh rfl) lapse

def isAnswered (known : Bool) (e : Instant × StoreEvent) : Bool :=
  match e.2 with
  | .used (.pinned asked) out => asked = token && Except.toBool out == known
  | _ => false

theorem answered_event {known : Bool} {e : Instant × StoreEvent} (answered : isAnswered known e = true) :
    ∃ t out, e = (t, .used (.pinned token) out) ∧ Except.toBool out = known := by
  obtain ⟨t, e⟩ := e
  unfold isAnswered at answered
  split at answered
  · rename_i asked out here
    obtain ⟨same, result⟩ := Bool.and_eq_true_iff.mp answered
    cases of_decide_eq_true same
    exact ⟨t, out, congrArg (t, ·) here, beq_iff_eq.mp result⟩
  · cases answered

theorem lapsed_evaluated :
    lapsed.log[1]?.any (isAnswered true) = true ∧ lapsed.log[2]?.any (isAnswered false) = true := by
  decide +kernel

theorem token_lapsed : ∃ t t' out out', lapsed.log[1]? = some (t, .used (.pinned token) out) ∧
    lapsed.log[2]? = some (t', .used (.pinned token) out') ∧ Except.toBool out = true ∧ Except.toBool out' = false ∧
    Resolved {} (lapsed.log.take 1) t token out ∧ Resolved {} (lapsed.log.take 2) t' token out' := by
  obtain ⟨first, second⟩ := lapsed_evaluated
  obtain ⟨e, there, answered⟩ := (Option.any_eq_true _ _).mp first
  obtain ⟨e', there', answered'⟩ := (Option.any_eq_true _ _).mp second
  obtain ⟨t, out, rfl, known⟩ := answered_event answered
  obtain ⟨t', out', rfl, unknown⟩ := answered_event answered'
  obtain ⟨resolved, _, _⟩ := token_lifetimes lapsed_run
  exact ⟨t, t', out, out', there, there', known, unknown, resolved 1 t token out there, resolved 2 t' token out' there'⟩

end Sample

end GridLoad
