import Mathlib.Data.List.Induction
import GridLoad.Proofs.Serving.Invariant
import GridLoad.Proofs.Serving.Questions

/-!
How far a request is with replacing the registry, read off what it has asked so far. Whoever has the turn sees the
registry that is served, draws one number, and serves at most one registry, which bears that number.
-/

set_option autoImplicit false

namespace GridLoad

open Program

inductive Turn where
  | out
  | entered
  | seen (previous : Registry)
  | drawn (previous : Registry) (number : Nat)
  | served (previous r : Registry)
  -- It has served a registry and given the turn back.
  | over (previous r : Registry)

namespace Turn

def after : Turn → Exchange Question.Answer → Turn
  | _, ⟨.wait .reloadTurn, some ()⟩ => .entered
  | .entered, ⟨.act .registry, r⟩ => .seen r
  | .seen previous, ⟨.act .generation, number⟩ => .drawn previous number
  | .drawn previous _, ⟨.act (.publish r), _⟩ => .served previous r
  | .served previous _, ⟨.act .registry, r⟩ => .served previous r
  | .served previous r, ⟨.act .endReload, _⟩ => .over previous r
  | _, ⟨.act .endReload, _⟩ => .out
  | turn, _ => turn

def Inside : Turn → Prop
  | .out => False
  | .over _ _ => False
  | _ => True

end Turn

def turn (t : Transcript) : Turn := t.foldl Turn.after .out

theorem turn_snoc (t : Transcript) (x : Exchange Question.Answer) : turn (t ++ [x]) = (turn t).after x := by
  simp [turn]

-- Questions that leave the turn where it is.
def Question.Steady : Question → Prop
  | .act .registry => False
  | .act .generation => False
  | .act (.publish _) => False
  | .act .endReload => False
  | .wait .reloadTurn => False
  | _ => True

theorem after_steady {q : Question} (steady : q.Steady) (turn : Turn) (answer : q.Answer) :
    turn.after ⟨q, answer⟩ = turn := by
  cases q with
  | act a => cases a <;> cases turn <;> first | rfl | exact absurd steady id
  | wait w => cases w <;> cases turn <;> first | rfl | exact absurd steady id

theorem after_unanswered (turn : Turn) (w : Wait) : turn.after ⟨.wait w, none⟩ = turn := by
  cases w <;> cases turn <;> rfl

theorem after_registry {turn : Turn} (other : ¬ turn.Inside) (r : Registry) : turn.after ⟨.act .registry, r⟩ = turn := by
  cases turn <;> first | rfl | exact absurd trivial other

theorem turn_steady {q : Question} (steady : q.Steady) (t : Transcript) (answer : q.Answer) :
    turn (t ++ [⟨q, answer⟩]) = turn t := by
  rw [turn_snoc, after_steady steady]

theorem out_ordinary {q : Question} (ordinary : q.Ordinary) (answer : q.Answer) :
    Turn.out.after ⟨q, answer⟩ = .out := by
  cases q with
  | act a => cases a <;> rfl
  | wait w => cases w <;> first | rfl | exact absurd trivial ordinary

-- The number is one that the request was given.
theorem turn_drawn {t : Transcript} {previous : Registry} {n : Nat} (drawn : turn t = .drawn previous n) :
    ⟨.act .generation, n⟩ ∈ t := by
  induction t using List.reverseRecOn with
  | nil => cases drawn
  | append_singleton before x ih =>
      rw [turn_snoc] at drawn
      unfold Turn.after at drawn
      split at drawn <;> try cases drawn
      · exact List.mem_append_right _ (List.mem_singleton_self _)
      · exact List.mem_append_left _ (ih drawn)

-- No models have been asked for.
def Unread (t : Transcript) : Prop := ∀ root n answer, ⟨.wait (.models root n), answer⟩ ∉ t

-- What only the one may ask whose turn it is, and when.
def Due (t : Transcript) : Question → Prop
  | .act .generation => ∃ previous, turn t = .seen previous
  | .act (.publish r) => ∃ previous, turn t = .drawn previous r.generation
  | .act .endReload => (turn t).Inside
  | .wait (.models _ number) => Unread t ∧ ∃ previous, turn t = .drawn previous number
  | _ => True

theorem ordinary_due {t : Transcript} {q : Question} (ordinary : q.Ordinary) : Due t q := by
  unfold Due
  split <;> first | trivial | exact absurd trivial ordinary

-- Two states in which the same registry is served, with the same cache, the same snapshots and tokens, and the same
-- health.
structure Engine.SameService (e e' : Engine) : Prop where
  current : e'.publication.current = e.publication.current
  cache : e'.cache = e.cache
  captures : e'.captures = e.captures
  health : e'.health = e.health

-- Whatever the state, neither this question nor the giving up of it changes what is served, the cache, the snapshots
-- and their tokens, or the health.
def Question.Harmless : Question → Prop
  | .act a => ∀ e : Engine, e.SameService (e.perform a).1
  | .wait w => ∀ (e : Engine) (caller : Caller),
      e.SameService (e.attempt caller w).1 ∧ e.SameService (e.giveUp caller w)

theorem same_service_refl {e : Engine} : e.SameService e := ⟨rfl, rfl, rfl, rfl⟩

theorem harmless_reload_turn : (Question.wait .reloadTurn).Harmless := by
  intro e caller
  refine ⟨?_, same_service_refl⟩
  simp only [Engine.attempt]
  split <;> exact ⟨rfl, rfl, rfl, rfl⟩

theorem harmless_models (root : Path) (n : Nat) : (Question.wait (.models root n)).Harmless :=
  fun _ _ => ⟨same_service_refl, same_service_refl⟩

theorem harmless_registry : (Question.act .registry).Harmless := fun _ => same_service_refl

theorem harmless_generation : (Question.act .generation).Harmless := fun _ => ⟨rfl, rfl, rfl, rfl⟩

theorem harmless_end_reload : (Question.act .endReload).Harmless := fun _ => ⟨rfl, rfl, rfl, rfl⟩

theorem harmless_count (counter : Counter) : (Question.act (.count counter)).Harmless := fun _ => ⟨rfl, rfl, rfl, rfl⟩

theorem harmless_note (event : Event) : (Question.act (.note event)).Harmless := fun _ => ⟨rfl, rfl, rfl, rfl⟩

-- Nothing was served under it, and nothing else was changed.
structure Spared (t : Transcript) : Prop where
  harmless : ∀ x ∈ t, x.question.Harmless
  unserved : ∀ r : Registry, ⟨.act (.publish r), ()⟩ ∉ t

theorem spared_snoc {t : Transcript} {q : Question} (spared : Spared t) (harmless : q.Harmless)
    (other : ∀ r : Registry, q ≠ .act (.publish r)) (answer : q.Answer) : Spared (t ++ [⟨q, answer⟩]) where
  harmless x member := by
    rcases List.mem_append.mp member with before | last
    · exact spared.harmless x before
    · cases List.mem_singleton.mp last
      exact harmless
  unserved r member := by
    rcases List.mem_append.mp member with before | last
    · exact spared.unserved r before
    · cases List.mem_singleton.mp last
      exact other r rfl

-- A report tells the numbers of two registries and the zones of the second.
structure ReloadReport.Tells (report : ReloadReport) (previous r : Registry) : Prop where
  previous : report.previous = previous.generation
  generation : report.generation = r.generation
  available : report.available = r.availableZones
  unavailable : report.unavailable = r.unavailableZones

-- The models could not be read, or a wait was given up.
def Refuses (t : Transcript) (halt : Halt) : Prop :=
  (∃ reason, halt = .failed (.configuration reason)) ∨ halt = .outOfTime ∧ ∃ w, ⟨.wait w, none⟩ ∈ t

-- What a reload has come to, while it has the turn and after it.
def Replaces (previous : Registry) (t : Transcript) : Outcome ReloadReport → Prop
  | .ok report => ∃ r, turn t = .served previous r ∧ report.Tells previous r
  | .error halt => (turn t).Inside ∧ Spared t ∧ Refuses t halt

def Concluded (t : Transcript) : Outcome ReloadReport → Prop
  | .ok report => ∃ previous r, turn t = .over previous r ∧ report.Tells previous r
  | .error halt => Spared t ∧ Refuses t halt

theorem refuses_snoc {t : Transcript} {halt : Halt} (refuses : Refuses t halt) (x : Exchange Question.Answer) :
    Refuses (t ++ [x]) halt :=
  refuses.imp_right fun ⟨late, w, member⟩ => ⟨late, w, List.mem_append_left _ member⟩

namespace Ledger

variable (Γ : Ledger) (setup : Setup)

def turns : Conduct Question.Answer := ⟨Γ.Vouches setup, Due⟩

variable {Γ setup} {α : Type} {post : Transcript → α → Prop} {t : Transcript}

-- Questions that do not move the turn and may be put at any time.
theorem turns_steady {a : Act} {f : a.Answer → Serve α} (steady : (Question.act a).Steady) (put : Due t (.act a))
    (further : ∀ answer, turn (t ++ [⟨.act a, answer⟩]) = turn t →
      Meets (Γ.turns setup) post (f answer) (t ++ [⟨.act a, answer⟩])) :
    Meets (Γ.turns setup) post (act a >>= f) t :=
  meets_first put fun answer _ => further answer (turn_steady steady t answer)

theorem turns_announce (r : Registry) (t : Transcript) :
    Meets (Γ.turns setup) (fun u _ => turn u = turn t) (Service.announce r) t := by
  have asks : Asks (fun q => q.Steady ∧ ∀ u, Due u q) (Service.announce r) := by
    refine asks_act ⟨trivial, fun _ => trivial⟩ fun _ => asks_bind (asks_each fun event => ?_) fun _ => ?_
    · exact asks_question ⟨trivial, fun _ => trivial⟩
    · exact asks_question ⟨trivial, fun _ => trivial⟩
  refine asks_meets (fun u => turn u = turn t) asks (fun u q _ kind => kind.2 u) ?_ rfl
  intro u q answer same kind
  rw [turn_steady kind.1, same]

theorem turns_replace_registry {previous : Registry} (root : Path) (seen : turn t = .seen previous) (fresh : Unread t)
    (spared : Spared t) :
    Meets (Γ.turns setup) (Replaces previous) (Service.replaceRegistry previous root) t := by
  refine meets_first ⟨previous, seen⟩ fun n _ => ?_
  have drawn : turn (t ++ [⟨.act .generation, n⟩]) = .drawn previous n := by
    rw [turn_snoc, seen]
    rfl
  have still := spared_snoc spared harmless_generation (by simp) n
  have fresh : Unread (t ++ [⟨.act .generation, n⟩]) := fun root' n' answer member => by
    rcases List.mem_append.mp member with before | last
    · exact fresh root' n' answer before
    · simp at last
  refine meets_first ⟨fresh, previous, drawn⟩ fun read numbered => ?_
  have reading : turn (t ++ [⟨.act .generation, n⟩] ++ [⟨.wait (.models root n), read⟩]) = .drawn previous n := by
    rw [turn_steady (q := .wait (.models root n)) trivial, drawn]
  have unread := spared_snoc still (harmless_models root n) (by simp) read
  match read, numbered with
  | none, _ =>
      refine meets_pure ⟨by rw [reading]; trivial, unread, .inr ⟨rfl, .models root n, ?_⟩⟩
      exact List.mem_append_right _ (List.mem_singleton_self _)
  | some (.error reason), _ =>
      refine turns_steady trivial trivial fun _ counted => turns_steady trivial trivial fun _ noted => ?_
      refine meets_pure ⟨by rw [noted, counted, reading]; trivial, ?_, .inl ⟨reason, rfl⟩⟩
      exact spared_snoc (spared_snoc unread (harmless_count _) (by simp) _) (harmless_note _) (by simp) _
  | some (.ok loaded), numbered =>
      have numbered : loaded.generation = n := numbered
      refine meets_first ⟨previous, numbered ▸ reading⟩ fun _ _ => meets_first trivial fun r _ => ?_
      refine turns_steady trivial trivial fun _ counted => turns_steady trivial trivial fun dropped retained => ?_
      refine meets_bind (turns_announce r _) fun u _ announced => ?_
      refine turns_steady trivial trivial fun _ counted' => turns_steady trivial trivial fun _ noted => ?_
      refine meets_pure ⟨r, ?_, ⟨rfl, rfl, rfl, rfl⟩⟩
      rw [noted, counted', announced, retained, counted, turn_snoc, turn_snoc, reading]
      rfl

theorem turns_end_reload (previous : Registry) {out : Outcome ReloadReport} (replaces : Replaces previous t out) :
    Meets (Γ.turns setup) Concluded (do act .endReload; pure out) t := by
  cases out with
  | ok report =>
      obtain ⟨r, served, tells⟩ := replaces
      refine meets_first (by simp only [turns, Due, served]; trivial) fun _ _ => meets_pure ?_
      exact ⟨previous, r, by rw [turn_snoc, served]; rfl, tells⟩
  | error halt =>
      obtain ⟨inside, spared, refuses⟩ := replaces
      refine meets_first inside fun _ _ => meets_pure ⟨?_, refuses_snoc refuses _⟩
      exact spared_snoc spared harmless_end_reload (by simp) _

-- A reload has the turn from its first wait to its last question.
theorem turns_reload : Meets (Γ.turns setup) Concluded Service.reload [] := by
  have fresh : Spared [] := ⟨fun _ none => (nomatch none), fun _ none => (nomatch none)⟩
  refine meets_first trivial fun entered _ => ?_
  have lined := spared_snoc fresh harmless_reload_turn (by simp) entered
  match entered with
  | none => exact meets_pure ⟨lined, .inr ⟨rfl, .reloadTurn, List.mem_singleton_self _⟩⟩
  | some () =>
      refine meets_first trivial fun previous _ => ?_
      have seen := spared_snoc lined harmless_registry (by simp) previous
      cases previous.root with
      | none => exact turns_end_reload previous ⟨trivial, seen, .inl ⟨_, rfl⟩⟩
      | some root =>
          have unread : Unread [⟨.wait .reloadTurn, some ()⟩, ⟨.act .registry, previous⟩] := fun _ _ _ => by simp
          exact meets_bind (turns_replace_registry root rfl unread seen) fun _ _ => turns_end_reload previous

-- Every request keeps to its turn.
theorem turns_ask (v : Service) (ask : Ask) :
    Meets (Γ.turns v.setup) (fun _ _ => True) (ask.program v) [] := by
  rcases program_kind v ask with ⟨answer, program⟩ | ordinary
  · rw [program]
    exact meets_bind turns_reload fun _ _ _ => trivial
  · refine meets_weaken (asks_meets (fun u => turn u = .out) ordinary ?_ ?_ rfl) fun _ _ _ => trivial
    · exact fun t q _ kind => ordinary_due kind
    · intro t q answer out kind
      rw [turn_snoc, out, out_ordinary kind]

end Ledger

theorem flight_due {v : Service} {Γ : Ledger} {f : Flight} {q : Question} {next : q.Answer → Serve f.ask.Answer}
    (sound : f.Sound v Γ) (rest : f.rest = .ask q next) : Due f.transcript q := by
  have met := meets_leads (Ledger.turns_ask v f.ask) sound.led sound.vouched
  rw [rest] at met
  exact met.1

end GridLoad
