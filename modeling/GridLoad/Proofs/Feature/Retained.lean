import GridLoad.Proofs.Feature.Captured
import GridLoad.Proofs.Table

/-!
What a step may do to the tokens that can be asked for: it enters one, or it sheds such as have not been touched for
longer than they are kept. To shed them changes no answer.
-/

set_option autoImplicit false

namespace GridLoad

open GridLoad.Time (Instant)

namespace Captures

-- The snapshot that a token stands for at an instant.
def resolve? (now : Instant) (token : Token) (c : Captures) : Option NamedSnapshot :=
  ((c.pinned? token).filter fun d => !c.isExpired now d).map (·.named)

-- No token is entered or touched, and none is lost but such as have expired by now.
structure Sheds (c c' : Captures) (now : Instant) : Prop where
  rules : c'.rules = c.rules
  pins : ∀ token, c'.pinned? token = c.pinned? token ∨
    c'.pinned? token = none ∧ ∃ d, c.pinned? token = some d ∧ c.isExpired now d = true

variable {c c' : Captures} {now later : Instant} {d : Dated} {token : Token} {id : RefreshId}

theorem expired_iff : c.isExpired now d = true ↔ d.instant + c.rules.retention.nanos < now := by
  simp only [isExpired, decide_eq_true_eq]
  exact Nat.lt_sub_iff_add_lt'

theorem expired_later (expired : c.isExpired now d = true) (order : now ≤ later) : c.isExpired later d = true :=
  expired_iff.mpr (Nat.lt_of_lt_of_le (expired_iff.mp expired) order)

theorem resolve_some {s : NamedSnapshot} : c.resolve? now token = some s ↔
    ∃ d, c.pinned? token = some d ∧ now ≤ d.instant + c.rules.retention.nanos ∧ d.named = s := by
  simp only [resolve?, Option.map_eq_some_iff, Option.filter_eq_some_iff, Bool.not_eq_true', and_assoc]
  refine exists_congr fun d => and_congr_right fun _ => and_congr_left fun _ => ?_
  rw [← Bool.not_eq_true, expired_iff, Nat.not_lt]

theorem sheds_same (rules : c'.rules = c.rules) (pins : c'.pins = c.pins) : c.Sheds c' now :=
  ⟨rules, fun token => .inl (congrArg (·.get? token) pins)⟩

theorem sheds_later (sheds : c.Sheds c' now) (order : now ≤ later) : c.Sheds c' later where
  rules := sheds.rules
  pins token := (sheds.pins token).imp_right fun ⟨gone, d, there, expired⟩ =>
    ⟨gone, d, there, expired_later expired order⟩

-- Whoever asks afterwards is answered as though nothing had been shed.
theorem sheds_resolve (sheds : c.Sheds c' now) (order : now ≤ later) :
    c'.resolve? later token = c.resolve? later token := by
  have expires : ∀ d, c'.isExpired later d = c.isExpired later d := by
    intro d
    unfold isExpired
    rw [sheds.rules]
  simp only [resolve?, expires]
  rcases sheds.pins token with same | ⟨gone, d, there, expired⟩
  · rw [same]
  · rw [gone, there, Option.filter_some, expired_later expired order]
    rfl

theorem forget_sheds (there : c.pinned? token = some d) (expired : c.isExpired now d = true) :
    c.Sheds (c.forget token) now where
  rules := rfl
  pins other := by
    have kept : (c.forget token).pinned? other = (c.pinned? other).filter fun _ => other ≠ token := Table.get_filter
    rw [kept]
    by_cases same : other = token
    · subst same
      exact .inr ⟨by simp, d, there, expired⟩
    · exact .inl (by cases c.pinned? other <;> simp [same])

theorem dropped_pinned (now : Instant) (token : Token) :
    (c.dropExpired now).pinned? token = (c.pinned? token).filter fun d => !c.isExpired now d := Table.get_filter

theorem drop_expired_sheds : c.Sheds (c.dropExpired now) now where
  rules := rfl
  pins token := by
    rw [dropped_pinned]
    cases there : c.pinned? token with
    | none => exact .inl rfl
    | some d =>
        cases expired : c.isExpired now d with
        | true => exact .inr ⟨by simp [expired], d, rfl, expired⟩
        | false => exact .inl (by simp [expired])

-- The tokens that are dropped, and how many they are.
theorem dropped_tokens (c : Captures) (now : Instant) : ∃ dropped : List Token, dropped.Nodup ∧
    (c.pins.size : Int) - (c.dropExpired now).pins.size = dropped.length ∧
    ∀ token, token ∈ dropped ↔ ∃ d, c.pinned? token = some d ∧ c.isExpired now d = true := by
  refine ⟨(c.pins.filter fun _ d => c.isExpired now d).keys, Table.keys_nodup _, ?_, fun token => ?_⟩
  · have split := Table.size_filter c.pins fun _ d => c.isExpired now d
    have rest : (c.dropExpired now).pins.size = (c.pins.filter fun _ d => !c.isExpired now d).size := rfl
    omega
  · rw [Table.mem_keys]
    exact exists_congr fun d => Table.get_filter_iff

theorem end_fetch_rules : (c.endFetch now id).rules = c.rules := by
  unfold endFetch
  split
  · rename_i since due answer there
    cases answer <;> rfl
  · rfl

-- A fetch that ends with a snapshot enters its token.
theorem end_fetch_pins : (c.endFetch now id).pins =
    match c.fetched? id with
    | some s => c.pins.insert s.token ⟨s, now⟩
    | none => c.pins := by
  unfold endFetch
  split
  · rename_i since due answer there
    cases answer <;> simp only [fetched?, there] <;> rfl
  · rename_i other
    have none : c.fetched? id = none := by
      unfold fetched?
      split
      · rename_i since due s there
        exact absurd there (other _ _ _)
      · rfl
    rw [none]

theorem record_sheds : c.Sheds (c.record now id) now := by
  unfold record
  split
  · rename_i since due answer outcome there
    cases outcome <;> exact sheds_same rfl rfl
  · exact sheds_same rfl rfl

theorem report_sheds : c.Sheds (c.report id) now := by
  unfold report
  split <;> exact sheds_same rfl rfl

end Captures

end GridLoad
