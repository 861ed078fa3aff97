import GridLoad.Proofs.Feature.Retained
import GridLoad.Proofs.Serving.Provenance
import GridLoad.Proofs.Serving.Sequential

/-!
Times at which no registry is replaced and no token expires. A request that comes then is told of the one registry that
is served, and finds each token that was found or made known before.
-/

set_option autoImplicit false

namespace GridLoad

open Relation (ReflTransGen)

namespace World

-- Whoever asks for the token now is given its snapshot.
def Resolves (w : World) (token : Token) : Prop :=
  (w.engine.captures.resolve? w.engine.now token).isSome = true

instance (w : World) (token : Token) : Decidable (w.Resolves token) := inferInstanceAs (Decidable (_ = true))

-- A request that came after so many others has come to its end.
def AnsweredSince (w : World) (n : Nat) (ask : Ask) (t : Transcript) (value : ask.Answer) : Prop :=
  ∃ i caller dropped, n ≤ i ∧ w.flights[i]? = some ⟨caller, ask, t, .done value, dropped⟩

-- Each exchange of the requests that came after so many others.
def SaidSince (w : World) (n : Nat) (holds : Exchange Question.Answer → Prop) : Prop :=
  ∀ i f, n ≤ i → w.flights[i]? = some f → ∀ x ∈ f.transcript, holds x

end World

-- No registry is replaced, and none of these tokens expires.
structure Uneventful (v : Service) (tokens : List Token) (w w' : World) : Prop where
  step : Step v w w'
  served : w'.history.published = w.history.published
  kept : ∀ token ∈ tokens, w.Resolves token → w'.Resolves token

section

variable {v : Service} {tokens : List Token} {w w' : World} {token : Token} {n : Nat}

theorem found_iff : w.Resolves token ↔ ∃ s, (w.engine.perform (.pinned token)).2 = some (s, false) := by
  simp only [World.Resolves, Captures.resolve?, Engine.perform]
  cases w.engine.captures.pinned? token with
  | none => simp
  | some d => cases expired : w.engine.captures.isExpired w.engine.now d <;> simp [expired]

theorem pin_resolves {s : NamedSnapshot} (done : w'.engine = (w.engine.perform (.pin s)).1) : w'.Resolves s.token := by
  have found : w'.engine.captures.resolve? w'.engine.now s.token = some s := by
    rw [done]
    exact Captures.resolve_some.mpr ⟨⟨s, w.engine.now⟩, Table.get_insert_self _ _ _, Nat.le_add_right _ _, rfl⟩
  rw [World.Resolves, found]
  rfl

theorem answered_said {ask : Ask} {t : Transcript} {value : ask.Answer} {holds : Exchange Question.Answer → Prop}
    (answered : w.AnsweredSince n ask t value) (said : w.SaidSince n holds) : ∀ x ∈ t, holds x := by
  obtain ⟨i, caller, dropped, since, there⟩ := answered
  exact said i _ since there

theorem answered_since {ask : Ask} {t : Transcript} {value : ask.Answer} (answered : w.AnsweredSince n ask t value) :
    w.Answered ask t value := by
  obtain ⟨i, caller, dropped, _, there⟩ := answered
  exact ⟨caller, dropped, List.mem_of_getElem? there⟩

-- Whatever was answered stays answered.
theorem answered_later {ask : Ask} {t : Transcript} {value : ask.Answer} (step : Step v w w')
    (answered : w.AnsweredSince n ask t value) : w'.AnsweredSince n ask t value := by
  obtain ⟨i, caller, dropped, since, there⟩ := answered
  have beside : ∀ {j : Nat} {f : Flight} (f' : Flight), w.flights[j]? = some f → (∃ q next, f.rest = .ask q next) →
      (w.flights.set j f')[i]? = some ⟨caller, ask, t, .done value, dropped⟩ := by
    rintro j f f' place ⟨q, next, turn⟩
    have apart : j ≠ i := by
      rintro rfl
      cases place.symm.trans there
      cases turn
    rw [List.getElem?_set_ne apart, there]
  cases step with
  | arrives ask => exact ⟨i, caller, dropped, since, List.getElem?_append_left (List.getElem?_eq_some_iff.mp there).1 ▸ there⟩
  | acts place live turn => exact ⟨i, caller, dropped, since, beside _ place ⟨_, _, turn⟩⟩
  | answered place live turn given => exact ⟨i, caller, dropped, since, beside _ place ⟨_, _, turn⟩⟩
  | late place live turn => exact ⟨i, caller, dropped, since, beside _ place ⟨_, _, turn⟩⟩
  | cut place live turn => exact ⟨i, caller, dropped, since, beside _ place ⟨_, _, turn⟩⟩
  | @drops j f place live =>
      by_cases same : j = i
      · subst same
        cases place.symm.trans there
        exact ⟨j, caller, true, since, List.getElem?_set_self (List.getElem?_eq_some_iff.mp there).1⟩
      · exact ⟨i, caller, dropped, since, (List.getElem?_set_ne same).trans there⟩
  | waits => exact ⟨i, caller, dropped, since, there⟩
  | fetched => exact ⟨i, caller, dropped, since, there⟩
  | recorded => exact ⟨i, caller, dropped, since, there⟩
  | reported => exact ⟨i, caller, dropped, since, there⟩
  | outside => exact ⟨i, caller, dropped, since, there⟩

-- Nobody has come since.
theorem said_start {holds : Exchange Question.Answer → Prop} : w.SaidSince w.flights.length holds :=
  fun _ _ since there => absurd (List.getElem?_eq_some_iff.mp there).1 (Nat.not_lt.mpr since)

theorem said_step {holds holds' : Exchange Question.Answer → Prop} (step : Step v w w') (said : w.SaidSince n holds)
    (kept : ∀ x, holds x → holds' x) (new : ∀ x, Utters w w' x → holds' x) : w'.SaidSince n holds' := by
  intro i f' since found x member
  obtain ⟨f, there, steps⟩ := step_flight step found (List.ne_nil_of_mem member)
  have still : ∀ x ∈ f.transcript, holds' x := fun x before => kept x (said i f since there x before)
  cases steps with
  | still => exact still x member
  | dropped => exact still x member
  | further rest utters =>
      rcases List.mem_append.mp member with before | now
      · exact still x before
      · exact List.mem_singleton.mp now ▸ new _ utters

theorem step_serves (step : Step v w w') (served : w'.history.published = w.history.published) :
    w'.engine.publication.current = w.engine.publication.current := by
  cases step with
  | @acts i f a next there live turn =>
      cases a with
      | publish r => simp [World.exchange, History.after] at served
      | look => exact congrArg Publication.current (perform_publication (a := .look) id w.engine)
      | _ => rfl
  | answered there live turn given => exact congrArg Publication.current (World.attempt_publication _ _ _)
  | waits there live turn pending => exact congrArg Publication.current (World.attempt_publication _ _ _)
  | cut there live turn => exact congrArg Publication.current (World.give_up_publication _ _ _)
  | _ => rfl

-- An exchange that is in keeping with what is served and with the tokens that can be found.
def Fits (r : Registry) (tokens : List Token) (w : World) : Exchange Question.Answer → Prop
  | ⟨.act .registry, other⟩ => other = r
  | ⟨.act (.pin s), _⟩ => s.token ∈ tokens → w.Resolves s.token
  | ⟨.act (.pinned token), found⟩ => token ∈ tokens → ∀ s, found = some (s, false) → w.Resolves token
  | _ => True

-- Whoever asks for one of the tokens is given its snapshot.
def Finds (tokens : List Token) : Exchange Question.Answer → Prop
  | ⟨.act (.pinned token), found⟩ => token ∈ tokens → ∃ s, found = some (s, false)
  | _ => True

theorem serves_on (steps : ReflTransGen (Uneventful v tokens) w w') :
    w'.engine.publication.current = w.engine.publication.current := by
  induction steps with
  | refl => rfl
  | tail _ calm ih => exact (step_serves calm.step calm.served).trans ih

theorem resolves_on (steps : ReflTransGen (Uneventful v tokens) w w') (member : token ∈ tokens)
    (resolves : w.Resolves token) : w'.Resolves token := by
  induction steps with
  | refl => exact resolves
  | tail _ calm ih => exact calm.kept token member ih

theorem fits_kept {r : Registry} {x : Exchange Question.Answer} (calm : Uneventful v tokens w w')
    (fits : Fits r tokens w x) : Fits r tokens w' x := by
  unfold Fits at fits ⊢
  split at fits
  · exact fits
  · exact fun member => calm.kept _ member (fits member)
  · exact fun member s found => calm.kept _ member (fits member s found)
  · trivial

theorem uttered_fits {x : Exchange Question.Answer} (calm : Uneventful v tokens w w') (uttered : Utters w w' x) :
    Fits w.engine.publication.current tokens w' x := by
  cases uttered with
  | wait wait answer => trivial
  | act a done =>
      cases a with
      | registry => rfl
      | pin s => exact fun _ => pin_resolves done
      | pinned token => exact fun member s found => calm.kept token member (found_iff.mpr ⟨s, found⟩)
      | _ => trivial

theorem fits_since (steps : ReflTransGen (Uneventful v tokens) w w') :
    w'.SaidSince w.flights.length (Fits w.engine.publication.current tokens w') := by
  induction steps with
  | refl => exact said_start
  | tail before calm ih =>
      refine said_step calm.step ih (fun x fits => fits_kept calm fits) fun x uttered => ?_
      rw [← serves_on before]
      exact uttered_fits calm uttered

theorem finds_since (steps : ReflTransGen (Uneventful v tokens) w w') (known : ∀ token ∈ tokens, w.Resolves token) :
    w'.SaidSince w.flights.length (Finds tokens) := by
  induction steps with
  | refl => exact said_start
  | tail before calm ih =>
      refine said_step calm.step ih (fun x finds => finds) fun x uttered => ?_
      cases uttered with
      | wait wait answer => trivial
      | act a done =>
          cases a with
          | pinned token => exact fun member => found_iff.mp (resolves_on before member (known token member))
          | _ => trivial

theorem answered_on {ask : Ask} {t : Transcript} {value : ask.Answer} (steps : ReflTransGen (Uneventful v tokens) w w')
    (answered : w.AnsweredSince n ask t value) : w'.AnsweredSince n ask t value := by
  induction steps with
  | refl => exact answered
  | tail _ calm ih => exact answered_later calm.step ih

theorem uneventful_reachable {first : Registry} (reachable : Reachable v first w)
    (steps : ReflTransGen (Uneventful v tokens) w w') : Reachable v first w' := by
  induction steps with
  | refl => exact reachable
  | tail _ calm ih => exact .further ih calm.step

end

/-! Schedules of which it can be told. -/

namespace World

def keeps (tokens : List Token) (w w' : World) : Bool :=
  decide (w'.history.published.length = w.history.published.length) &&
    tokens.all fun token => !decide (w.Resolves token) || decide (w'.Resolves token)

def playsQuietly (v : Service) (tokens : List Token) (w : World) : List Move → Bool
  | [] => true
  | m :: rest => w.keeps tokens (w.move v m) && (w.move v m).playsQuietly v tokens rest

end World

section

variable {v : Service} {tokens : List Token} {w w' : World} {n : Nat}

theorem step_publishes (step : Step v w w') : w.history.published <+: w'.history.published := by
  have after : ∀ x, w.history.published <+: (w.history.after x).published := by
    intro x
    unfold History.after
    split <;> simp
  cases step with
  | acts => exact after _
  | answered => exact after _
  | late => exact after _
  | cut => exact after _
  | _ => exact List.prefix_rfl

theorem keeps_uneventful (step : Step v w w') (keeps : w.keeps tokens w' = true) : Uneventful v tokens w w' := by
  obtain ⟨many, kept⟩ := Bool.and_eq_true_iff.mp keeps
  refine ⟨step, ((step_publishes step).eq_of_length (of_decide_eq_true many).symm).symm, fun token member resolves => ?_⟩
  simpa [resolves] using List.all_eq_true.mp kept token member

theorem plays_uneventful {moves : List Move} (quiet : w.playsQuietly v tokens moves = true) :
    ReflTransGen (Uneventful v tokens) w (w.play v moves) := by
  induction moves generalizing w with
  | nil => exact .refl
  | cons m rest ih =>
      obtain ⟨keeps, further⟩ := Bool.and_eq_true_iff.mp quiet
      have later : ReflTransGen (Uneventful v tokens) (w.move v m) (w.play v (m :: rest)) := ih further
      rcases move_steps (v := v) (w := w) m with same | step
      · rwa [same] at later
      · exact later.head (keeps_uneventful step keeps)

theorem answered_at {i : Nat} {ask : Ask} {test : ask.Answer → Bool}
    (answers : w.flights[i]?.any (Flight.answers ask test) = true) (since : n ≤ i) :
    ∃ t value, w.AnsweredSince n ask t value ∧ test value = true := by
  obtain ⟨f, there, passes⟩ := (Option.any_eq_true _ _).mp answers
  obtain ⟨caller, t, value, dropped, rfl, holds⟩ := flight_answers passes
  exact ⟨t, value, ⟨i, caller, dropped, since, there⟩, holds⟩

end

end GridLoad
