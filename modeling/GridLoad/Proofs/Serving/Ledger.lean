import GridLoad.Proofs.Cache.Contents
import GridLoad.Proofs.Feature.Captured
import GridLoad.Proofs.Forecast.Undated

/-!
What is known of a service at some moment, and grows: the keys of slots, the registries that were served and
the snapshots that were named. Answers are vouched for by it, and questions are allowed by it.
-/

set_option autoImplicit false

namespace GridLoad

open GridLoad.Time (Timestamp)

structure Ledger where
  key? : SlotId → Option Key
  published : List Registry
  named : List NamedSnapshot

def Engine.ledger (e : Engine) (h : History) : Ledger := ⟨(e.cache.key? ·), h.published, h.named⟩

def World.ledger (w : World) : Ledger := w.engine.ledger w.history

-- The key under which a constituent is asked for.
def Key.member (k : Key) (m : Member) : Key := { k with zone := m.zone }

namespace Ledger

variable (Γ : Ledger) (setup : Setup)

def Knows (s : NamedSnapshot) : Prop := s ∈ Γ.named ∧ s.token = s.snapshot.token

-- A forecast by a served registry of the key's generation from a named snapshot of its token.
def Alone (k : Key) (p : Prediction) : Prop :=
  ∃ r ∈ Γ.published, ∃ s, Γ.Knows s ∧ r.generation = k.generation ∧ s.token = k.token ∧
    ∃ now, (zoneForecast setup.settings.confidenceLevel r k.zone k.horizon s now).outcome = .ok p

-- The sum of such forecasts of all constituents.
def Together (g : Group) (k : Key) (p : Prediction) : Prop :=
  ∃ parts now, List.Forall₂ (fun m part => Γ.Alone setup (k.member m) part.1 ∧ part.2 = m.weight) g.members parts ∧
    p = aggregate g.id k.horizon k.token setup.settings.combination parts now

def Made (k : Key) (p : Prediction) : Prop :=
  match setup.catalog.get? k.zone with
  | none => Γ.Alone setup k p
  | some g => Γ.Together setup g k p

def Vouches : (q : Question) → q.Answer → Prop
  | .act .registry, r => r ∈ Γ.published
  | .act (.slot key), id => Γ.key? id = some key
  | .act .look, .fresh s => Γ.Knows s
  | .act .look, .refreshing _ previous => ∀ s, previous = some s → Γ.Knows s
  | .act (.pin s), _ => s ∈ Γ.named
  | .act (.pinned token), found => ∀ s expired, found = some (s, expired) → Γ.Knows s ∧ s.token = token
  | .wait (.enter id), some (.found p) => ∃ key, Γ.key? id = some key ∧ Γ.Made setup key p
  | .wait (.refreshed _ _), some (.report (.outcome outcome)) =>
      (∀ s, outcome = .ok s → Γ.Knows s) ∧ ∀ f, outcome = .error f → f.OfSource
  | .wait (.models _ generation), some (.ok r) => r.generation = generation
  | _, _ => True

-- A registry is served once, under a number that the same request was given.
def Allows (t : Transcript) : Question → Prop
  | .act (.leave id computed) => ∀ p, computed = some p → ∃ key, Γ.key? id = some key ∧ Γ.Made setup key p
  | .act (.pin s) => s.token = s.snapshot.token
  | .act (.publish r) => ⟨.act .generation, r.generation⟩ ∈ t ∧ ∀ r' : Registry, ⟨.act (.publish r'), ()⟩ ∉ t
  | _ => True

def conduct : Conduct Question.Answer := ⟨Γ.Vouches setup, Γ.Allows setup⟩

-- No number was given to two registries, and no token to two texts.
structure Distinct : Prop where
  registries : ∀ r ∈ Γ.published, ∀ r' ∈ Γ.published, r.generation = r'.generation → r = r'
  tokens : ∀ s, Γ.Knows s → ∀ s', Γ.Knows s' → s.token = s'.token →
    s.snapshot.canonicalText = s'.snapshot.canonicalText

structure Grows (Γ Δ : Ledger) : Prop where
  key? : ∀ id key, Γ.key? id = some key → Δ.key? id = some key
  published : Γ.published ⊆ Δ.published
  named : Γ.named ⊆ Δ.named

variable {Γ} {Δ : Ledger} {setup}

theorem grows_refl : Γ.Grows Γ := ⟨fun _ _ found => found, List.Subset.refl _, List.Subset.refl _⟩

theorem grows_trans {Θ : Ledger} (first : Γ.Grows Δ) (second : Δ.Grows Θ) : Γ.Grows Θ :=
  ⟨fun id key found => second.key? id key (first.key? id key found),
    List.Subset.trans first.published second.published, List.Subset.trans first.named second.named⟩

theorem knows_grows (grows : Γ.Grows Δ) {s : NamedSnapshot} (known : Γ.Knows s) : Δ.Knows s :=
  ⟨grows.named known.1, known.2⟩

theorem alone_grows (grows : Γ.Grows Δ) {k : Key} {p : Prediction} (alone : Γ.Alone setup k p) :
    Δ.Alone setup k p := by
  obtain ⟨r, served, s, known, rest⟩ := alone
  exact ⟨r, grows.published served, s, knows_grows grows known, rest⟩

theorem together_grows (grows : Γ.Grows Δ) {g : Group} {k : Key} {p : Prediction}
    (together : Γ.Together setup g k p) : Δ.Together setup g k p := by
  obtain ⟨parts, now, each, sum⟩ := together
  exact ⟨parts, now, each.imp fun m part both => ⟨alone_grows grows both.1, both.2⟩, sum⟩

theorem made_grows (grows : Γ.Grows Δ) {k : Key} {p : Prediction} (made : Γ.Made setup k p) : Δ.Made setup k p := by
  unfold Made at made ⊢
  split at made
  · exact alone_grows grows made
  · exact together_grows grows made

theorem vouches_grows (grows : Γ.Grows Δ) {q : Question} {answer : q.Answer} (vouched : Γ.Vouches setup q answer) :
    Δ.Vouches setup q answer := by
  unfold Vouches at vouched
  split at vouched
  · exact grows.published vouched
  · exact grows.key? _ _ vouched
  · exact knows_grows grows vouched
  · exact fun s same => knows_grows grows (vouched s same)
  · exact grows.named vouched
  · exact fun s expired same => ⟨knows_grows grows (vouched s expired same).1, (vouched s expired same).2⟩
  · obtain ⟨key, there, made⟩ := vouched
    exact ⟨key, grows.key? _ _ there, made_grows grows made⟩
  · exact ⟨fun s same => knows_grows grows (vouched.1 s same), vouched.2⟩
  · exact vouched
  · simp only [Vouches]

end Ledger

end GridLoad
