import GridLoad.Config.Server
import Mathlib.Algebra.Group.Nat.Defs
import Mathlib.Logic.Function.Iterate
import Mathlib.Data.Nat.Find

/-!
How often a fetch is tried, and how long it waits in between. Whatever its attempts come to, it ends with the first that
is not disturbed or, when every retry has been made, with the last; the waits double up to the greatest, which the first
is not held to.
-/

set_option autoImplicit false

namespace GridLoad

open GridLoad.Time (Span)

-- Statuses of a service that may do better later.
def Busy (status : Nat) : Prop := 500 ≤ status ∧ status < 600 ∨ status = 429

-- Ways to fail that may pass: nothing arrives, the status says so, or what was to be read breaks off. Of a status
-- that is no success the body is not read.
def Reply.Transient : Reply → Prop
  | .lost _ => True
  | .brokenOff status _ => Busy status ∨ 200 ≤ status ∧ status < 300
  | .complete status _ => Busy status

def Attempt.IsDisturbed : Attempt → Prop
  | .received _ => False
  | .refused _ => False
  | .disturbed _ => True

instance : DecidablePred Attempt.IsDisturbed
  | .received _ => .isFalse id
  | .refused _ => .isFalse id
  | .disturbed _ => .isTrue trivial

section

variable {a : Attempt} {status : Nat}

theorem disturbed_reason (disturbed : a.IsDisturbed) : ∃ reason, a = .disturbed reason := by
  cases a with
  | received s => exact absurd disturbed id
  | refused reason => exact absurd disturbed id
  | disturbed reason => exact ⟨reason, rfl⟩

theorem status_disturbed : (Attempt.ofStatus status a).IsDisturbed ↔
    Busy status ∨ 200 ≤ status ∧ status < 300 ∧ a.IsDisturbed := by
  unfold Attempt.ofStatus Busy
  split
  · rename_i busy
    exact iff_of_true trivial (.inl busy)
  · rename_i idle
    split
    · rename_i success
      exact ⟨fun disturbed => .inr ⟨success.1, success.2, disturbed⟩, fun either =>
        either.elim (fun busy => absurd busy idle) fun rest => rest.2.2⟩
    · rename_i failure
      refine iff_of_false id fun either => either.elim idle fun rest => failure ⟨rest.1, rest.2.1⟩

theorem body_settled (body : List UInt8) : ¬ (Attempt.ofBody body).IsDisturbed := by
  unfold Attempt.ofBody
  split <;> exact id

theorem reply_disturbed (r : Reply) : (Attempt.ofReply r).IsDisturbed ↔ r.Transient := by
  cases r with
  | lost reason => exact Iff.rfl
  | brokenOff status reason =>
      refine status_disturbed.trans (or_congr_right ?_)
      exact and_congr_right fun _ => and_iff_left trivial
  | complete status body =>
      refine status_disturbed.trans (or_iff_left ?_)
      exact fun success => body_settled body success.2.2

end

-- The wait before each further attempt, as long as there is one.
def RemoteRules.plannedWait (rules : RemoteRules) (i : Nat) : Span := rules.waitAfter^[i] rules.firstWait

theorem planned_wait_after (rules : RemoteRules) (i : Nat) :
    rules.plannedWait (i + 1) = rules.waitAfter (rules.plannedWait i) :=
  Function.iterate_succ_apply' _ _ _

namespace RemoteFetch

section

variable {rules : RemoteRules} {attempt other : Nat → Attempt} {made k : Nat} {wait : Span}

-- What a fetch answers that ends with an attempt.
def ending (rules : RemoteRules) : Attempt → Except String Snapshot
  | .received s => .ok s
  | .refused reason => .error reason
  | .disturbed reason => .error ("giving up after " ++ toString (rules.retries + 1) ++ " attempts: " ++ reason)

-- A fetch that has waited before.
def after (waits : List Span) (f : RemoteFetch) : RemoteFetch := { f with waits := waits ++ f.waits }

theorem after_after (first second : List Span) (f : RemoteFetch) :
    (f.after second).after first = f.after (first ++ second) := by
  simp only [after, List.append_assoc]

theorem go_on_last (last : ¬ (attempt made).IsDisturbed ∨ made = rules.retries) :
    goOn rules attempt made wait = ⟨made + 1, [], ending rules (attempt made)⟩ := by
  rw [goOn]
  cases came : attempt made with
  | received s => rfl
  | refused reason => rfl
  | disturbed reason =>
      have spent : made = rules.retries := last.resolve_left fun settled => settled (came ▸ trivial)
      subst spent
      exact if_neg (Nat.lt_irrefl _)

theorem go_on_disturbed (disturbed : (attempt made).IsDisturbed) (left : made < rules.retries) :
    goOn rules attempt made wait = (goOn rules attempt (made + 1) (rules.waitAfter wait)).after [wait] := by
  obtain ⟨reason, came⟩ := disturbed_reason disturbed
  rw [goOn, came]
  exact if_pos left

-- As long as attempts are disturbed and retries are left, one attempt follows another.
theorem run_on (disturbed : ∀ i < k, (attempt i).IsDisturbed) (within : k ≤ rules.retries) :
    run rules attempt =
      (goOn rules attempt k (rules.plannedWait k)).after ((List.range k).map rules.plannedWait) := by
  induction k with
  | zero => rfl
  | succ k ih =>
      have before : ∀ i < k, (attempt i).IsDisturbed := fun i early => disturbed i (Nat.lt_succ_of_lt early)
      rw [ih before (Nat.le_of_succ_le within), go_on_disturbed (disturbed k (Nat.lt_succ_self k)) within,
        after_after, planned_wait_after, List.range_succ, List.map_append]
      rfl

-- The attempt that a fetch ends with.
structure Ends (rules : RemoteRules) (attempt : Nat → Attempt) (k : Nat) : Prop where
  within : k ≤ rules.retries
  before : ∀ i < k, (attempt i).IsDisturbed
  last : ¬ (attempt k).IsDisturbed ∨ k = rules.retries

theorem ends_somewhere (rules : RemoteRules) (attempt : Nat → Attempt) : ∃ k, Ends rules attempt k := by
  have some_last : ∃ k, ¬ (attempt k).IsDisturbed ∨ k = rules.retries := ⟨rules.retries, .inr rfl⟩
  refine ⟨Nat.find some_last, Nat.find_min' some_last (.inr rfl), fun i early => ?_, Nat.find_spec some_last⟩
  have further := Nat.find_min some_last early
  exact Decidable.not_not.mp fun settled => further (.inl settled)

theorem run_ends (ends : Ends rules attempt k) :
    run rules attempt = ⟨k + 1, (List.range k).map rules.plannedWait, ending rules (attempt k)⟩ := by
  rw [run_on ends.before ends.within, go_on_last ends.last]
  simp only [after, List.append_nil]

-- The first attempt that is not disturbed, made or not.
structure FirstSettled (attempt : Nat → Attempt) (k : Nat) : Prop where
  before : ∀ i < k, (attempt i).IsDisturbed
  settled : ¬ (attempt k).IsDisturbed

theorem settled_ends (first : FirstSettled attempt k) (within : k ≤ rules.retries) : Ends rules attempt k :=
  ⟨within, first.before, .inl first.settled⟩

theorem disturbed_ends (disturbed : ∀ i < rules.retries, (attempt i).IsDisturbed) : Ends rules attempt rules.retries :=
  ⟨Nat.le_refl _, disturbed, .inr rfl⟩

theorem settled_attempts (first : FirstSettled attempt k) :
    (run rules attempt).attempts = min (k + 1) (rules.retries + 1) := by
  by_cases within : k ≤ rules.retries
  · rw [run_ends (settled_ends first within)]
    exact (Nat.min_eq_left (Nat.succ_le_succ within)).symm
  · have later : rules.retries ≤ k := Nat.le_of_not_le within
    rw [run_ends (disturbed_ends fun i early => first.before i (Nat.lt_of_lt_of_le early later))]
    exact (Nat.min_eq_right (Nat.succ_le_succ later)).symm

theorem ends_alike (ends : Ends rules attempt k) (same : ∀ i < k + 1, other i = attempt i) : Ends rules other k := by
  have here := same k (Nat.lt_succ_self k)
  exact ⟨ends.within, fun i early => same i (Nat.lt_succ_of_lt early) ▸ ends.before i early, here ▸ ends.last⟩

end

/-- A fetch makes as many attempts as it takes to come to one that is not disturbed, and at most one more than there are
retries. It answers with what that attempt came to; when all were disturbed it gives up, with the reason of the last. No
snapshot that was received is dropped, nothing is tried after a refusal, and what later attempts would have come to
does not matter. An attempt is disturbed if its reply is lost, breaks off, or says that the service is at fault. -/
theorem retries_bounded (rules : RemoteRules) (attempt : Nat → Attempt) (word : rules.retries < wordLimit 32 - 1) :
    (run rules attempt).attempts < wordLimit 32 ∧
    (∀ k, FirstSettled attempt k → (run rules attempt).attempts = min (k + 1) (rules.retries + 1) ∧
      (k ≤ rules.retries →
        (∀ s, attempt k = .received s → (run rules attempt).result = .ok s) ∧
        ∀ reason, attempt k = .refused reason → (run rules attempt).result = .error (.source reason))) ∧
    ((∀ i ≤ rules.retries, (attempt i).IsDisturbed) → (run rules attempt).attempts = rules.retries + 1 ∧
      ∃ reason, attempt rules.retries = .disturbed reason ∧ (run rules attempt).result =
        .error (.source ("giving up after " ++ toString (rules.retries + 1) ++ " attempts: " ++ reason))) ∧
    (∀ i < (run rules attempt).attempts, (∀ s, attempt i = .received s → (run rules attempt).result = .ok s) ∧
      (¬ (attempt i).IsDisturbed → i + 1 = (run rules attempt).attempts)) ∧
    (∀ other, (∀ i < (run rules attempt).attempts, other i = attempt i) → run rules other = run rules attempt) ∧
    ∀ r : Reply, (Attempt.ofReply r).IsDisturbed ↔ r.Transient := by
  obtain ⟨k, ends⟩ := ends_somewhere rules attempt
  have ran := run_ends ends
  refine ⟨?_, fun k first => ⟨settled_attempts first, fun within => ⟨fun s came => ?_, fun reason came => ?_⟩⟩,
    fun disturbed => ?_, fun i made => ?_, fun other same => ?_, reply_disturbed⟩
  · -- Attempts are counted in a word of 32 bits, which so never overflows.
    have within := ends.within
    rw [ran]
    change k + 1 < _
    omega
  · rw [run_ends (settled_ends first within), came]
    rfl
  · rw [run_ends (settled_ends first within), came]
    rfl
  · obtain ⟨reason, came⟩ := disturbed_reason (disturbed rules.retries (Nat.le_refl _))
    have spent := run_ends (disturbed_ends fun i early => disturbed i (Nat.le_of_lt early))
    rw [spent]
    exact ⟨rfl, reason, came, by rw [came]; rfl⟩
  · rw [ran] at made ⊢
    have last : ¬ (attempt i).IsDisturbed → i = k := fun settled =>
      (Nat.lt_succ_iff_lt_or_eq.mp made).resolve_left fun early => settled (ends.before i early)
    refine ⟨fun s came => ?_, fun settled => congrArg (· + 1) (last settled)⟩
    obtain rfl := last (came ▸ id)
    rw [came]
    rfl
  · rw [ran] at same ⊢
    rw [run_ends (ends_alike ends same), same k (Nat.lt_succ_self k)]

end RemoteFetch

namespace Sample

-- A service that is at fault, then out of reach, then does not know the address.
def failingService : Nat → Reply
  | 0 => .complete 503 []
  | 1 => .lost unreadable
  | _ => .complete 404 []

theorem refused_at_last :
    let rules : RemoteRules := { address := "", retries := 7 }
    rules.retries < wordLimit 32 - 1 ∧
    (RemoteFetch.run rules fun i => .ofReply (failingService i)).attempts = 3 ∧
    (RemoteFetch.run rules fun i => .ofReply (failingService i)).result =
      .error (.source "server returned 404 Not Found") := by
  intro rules
  have word : rules.retries < wordLimit 32 - 1 := by decide
  obtain ⟨_, settles, _⟩ := RemoteFetch.retries_bounded rules (fun i => .ofReply (failingService i)) word
  have third : RemoteFetch.FirstSettled (fun i => .ofReply (failingService i)) 2 := ⟨by decide, by decide⟩
  obtain ⟨attempts, ends⟩ := settles 2 third
  exact ⟨word, attempts, (ends (by decide)).2 _ (by decide)⟩

end Sample

theorem span_min_nanos (a b : Span) : (a.min b).nanos = min a.nanos b.nanos := by
  unfold Span.min
  split <;> omega

section

variable (rules : RemoteRules)

-- The greatest wait is held to when a wait is doubled, not when it begins.
theorem planned_wait_capped (i : Nat) :
    (rules.plannedWait (i + 1)).nanos = min (rules.firstWait.nanos * 2 ^ (i + 1)) rules.greatestWait.nanos := by
  induction i with
  | zero =>
      rw [planned_wait_after, RemoteRules.waitAfter, span_min_nanos, Nat.pow_one, Nat.mul_comm]
      rfl
  | succ i ih =>
      rw [planned_wait_after, RemoteRules.waitAfter, span_min_nanos, Nat.pow_succ, ← Nat.mul_assoc]
      change min (2 * (rules.plannedWait (i + 1)).nanos) _ = _
      rw [ih]
      omega

theorem planned_wait_below (i : Nat) :
    (rules.plannedWait i).nanos ≤ max rules.firstWait.nanos rules.greatestWait.nanos := by
  cases i with
  | zero => exact Nat.le_max_left _ _
  | succ i =>
      rw [planned_wait_capped]
      exact Nat.le_trans (Nat.min_le_right _ _) (Nat.le_max_right _ _)

variable {rules}

theorem planned_wait_doubled (kept : rules.firstWait.nanos ≤ rules.greatestWait.nanos) (i : Nat) :
    (rules.plannedWait i).nanos = min (rules.firstWait.nanos * 2 ^ i) rules.greatestWait.nanos := by
  cases i with
  | zero =>
      rw [Nat.pow_zero, Nat.mul_one]
      exact (Nat.min_eq_left kept).symm
  | succ i => exact planned_wait_capped rules i

theorem planned_wait_grows (kept : rules.firstWait.nanos ≤ rules.greatestWait.nanos) {i j : Nat} (early : i ≤ j) :
    (rules.plannedWait i).nanos ≤ (rules.plannedWait j).nanos := by
  have longer : rules.firstWait.nanos * 2 ^ i ≤ rules.firstWait.nanos * 2 ^ j :=
    Nat.mul_le_mul_left _ (Nat.pow_le_pow_right (by decide) early)
  rw [planned_wait_doubled kept, planned_wait_doubled kept]
  omega

end

-- Seconds are words, and so are those of a wait that is doubled.
def Time.Span.Held (s : Span) : Prop := s.nanos < wordLimit 64 * 1000000000

/-- There is a wait between one attempt and the next. The first is as long as it is set to be; each other one is the
first doubled for every wait before it, up to the greatest. So where the first is no longer than the greatest, none is,
and none is shorter than the one before it. No wait of a source that can be configured grows past what a span can hold. -/
theorem waits_capped_after_first (rules : RemoteRules) (attempt : Nat → Attempt) :
    (RemoteFetch.run rules attempt).waits.length + 1 = (RemoteFetch.run rules attempt).attempts ∧
    (∀ i wait, (RemoteFetch.run rules attempt).waits[i]? = some wait →
      wait.nanos = if i = 0 then rules.firstWait.nanos
        else min (rules.firstWait.nanos * 2 ^ i) rules.greatestWait.nanos) ∧
    (rules.firstWait.nanos ≤ rules.greatestWait.nanos →
      (∀ i wait, (RemoteFetch.run rules attempt).waits[i]? = some wait →
        wait.nanos = min (rules.firstWait.nanos * 2 ^ i) rules.greatestWait.nanos) ∧
      (RemoteFetch.run rules attempt).waits.Pairwise fun wait later => wait.nanos ≤ later.nanos) ∧
    ∀ address retries firstWaitMillis timeoutMillis, firstWaitMillis < wordLimit 64 →
      (Config.FeatureSettings.remote address retries firstWaitMillis timeoutMillis).remoteRules? = some rules →
      ∀ wait ∈ (RemoteFetch.run rules attempt).waits, wait.double.Held := by
  obtain ⟨k, ends⟩ := RemoteFetch.ends_somewhere rules attempt
  rw [RemoteFetch.run_ends ends]
  have planned : ∀ {i wait}, ((List.range k).map rules.plannedWait)[i]? = some wait → wait = rules.plannedWait i := by
    intro i wait at_i
    obtain ⟨_, here⟩ := List.getElem?_eq_some_iff.mp at_i
    rw [← here, List.getElem_map, List.getElem_range]
  refine ⟨by simp, fun i wait at_i => ?_, fun kept => ⟨fun i wait at_i => ?_, ?_⟩, ?_⟩
  · obtain rfl := planned at_i
    cases i with
    | zero => rfl
    | succ i => exact planned_wait_capped rules i
  · obtain rfl := planned at_i
    exact planned_wait_doubled kept i
  · rw [List.pairwise_map]
    exact List.pairwise_lt_range.imp fun early => planned_wait_grows kept (Nat.le_of_lt early)
  · intro address retries firstWaitMillis timeoutMillis word built wait member
    obtain ⟨i, _, rfl⟩ := List.mem_map.mp member
    have first : rules.firstWait.nanos = firstWaitMillis * 1000000 := by cases built; rfl
    have greatest : rules.greatestWait.nanos = 2000000000 := by cases built; rfl
    have below := planned_wait_below rules i
    have limit : wordLimit 64 = 18446744073709551616 := rfl
    change 2 * (rules.plannedWait i).nanos < wordLimit 64 * 1000000000
    omega

namespace Sample

def patientRules : RemoteRules := { address := "http://features.internal/", firstWait := Span.ofMillis 5000 }

-- A first wait that is longer than the greatest is waited all the same, and the wait after it is shorter.
theorem first_wait_uncapped :
    (Config.FeatureSettings.remote "http://features.internal/" 2 5000 5000).remoteRules? = some patientRules ∧
    (RemoteFetch.run patientRules fun _ => .disturbed unreadable).waits = [Span.ofSeconds 5, Span.ofSeconds 2] := by
  have spent : RemoteFetch.Ends patientRules (fun _ => .disturbed unreadable) 2 :=
    RemoteFetch.disturbed_ends fun _ _ => trivial
  rw [RemoteFetch.run_ends spent]
  exact ⟨rfl, by decide⟩

end Sample

end GridLoad
