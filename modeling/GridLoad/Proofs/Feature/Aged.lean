import GridLoad.Config.Server
import GridLoad.Proofs.Serving.World
import GridLoad.Proofs.Time.Written
import GridLoad.Sample
import GridLoad.Serving.Snapshots

/-!
When a snapshot is too old. As long as the limit that is set fits a word of 64 bits with a sign, a snapshot is put on
record and refused exactly if it is older, so that a greater limit refuses no more of them and none from the future is
ever refused.
-/

set_option autoImplicit false

namespace GridLoad.Time.Timestamp

-- A leap second counts as a part of the second before it.
def Before (t later : Timestamp) : Prop :=
  t.seconds < later.seconds ∨ t.seconds = later.seconds ∧ t.nanos < later.nanos

theorem leaps_since_cases (t earlier : Timestamp) :
    t.leapsSince earlier ≤ 0 ∨
      t.leapsSince earlier = 1 ∧ perSecond ≤ earlier.nanos ∧ earlier.secondOfDay < t.secondOfDay := by
  unfold leapsSince
  split
  · rename_i leap
    rw [Bool.and_eq_true, decide_eq_true_eq] at leap
    exact .inr ⟨rfl, of_decide_eq_true leap.2, leap.1⟩
  · split <;> exact .inl (by decide)

-- What has not happened yet is never a second old. Less than a second ahead it can seem to be past by the rest of a
-- leap second, which the count of whole seconds drops.
theorem seconds_since_later {now observed : Timestamp} (proper : now.Proper) (future : now.Before observed) :
    now.secondsSince observed ≤ 0 := by
  have nanos := proper.nanos
  unfold secondsSince
  dsimp only
  rw [perSecond] at nanos ⊢
  have short : (now.seconds - observed.seconds + now.leapsSince observed) * ((1000000000 : Nat) : Int) +
      ((now.nanos : Int) - observed.nanos) < ((1000000000 : Nat) : Int) := by
    rcases leaps_since_cases now observed with none | ⟨one, leap, later⟩
    · rcases future with earlier | ⟨same, less⟩ <;> omega
    · rw [perSecond] at leap
      rcases future with earlier | ⟨same, _⟩
      · omega
      · rw [secondOfDay, secondOfDay, same] at later
        exact absurd later (Nat.lt_irrefl _)
  generalize (now.seconds - observed.seconds + now.leapsSince observed) * ((1000000000 : Nat) : Int) +
    ((now.nanos : Int) - observed.nanos) = elapsed at short ⊢
  rcases Int.le_total 0 elapsed with past | ahead
  · exact Int.le_of_eq (Int.tdiv_eq_zero_of_lt past short)
  · have turned := Int.tdiv_nonneg (Int.neg_nonneg_of_nonpos ahead) (Int.natCast_nonneg 1000000000)
    rw [Int.neg_tdiv] at turned
    exact Int.nonpos_of_neg_nonneg turned

end GridLoad.Time.Timestamp

namespace GridLoad

open GridLoad.Time (Timestamp)

theorem age_limit_held {limit : Nat} (held : limit < wordLimit 63) : ageLimit limit = limit := by
  have half : wordLimit 63 = 9223372036854775808 := rfl
  have whole : wordLimit 64 = 18446744073709551616 := rfl
  unfold ageLimit asSigned64
  rw [whole]
  exact Int.bmod_eq_of_le (by omega) (by omega)

theorem stale_age_held {limit : Nat} (held : limit < wordLimit 63) (now : Timestamp) (s : NamedSnapshot) :
    staleAge? limit now s = if now.secondsSince s.snapshot.observedAt ≤ limit then none
      else some ⟨now.secondsSince s.snapshot.observedAt, limit⟩ := by
  unfold staleAge?
  rw [age_limit_held held]

-- A check that is told the time, with what it puts on record and what comes of it.
def Checks (rules : CaptureRules) (s : NamedSnapshot) (now : Timestamp) (noted : Transcript) (out : Outcome Unit) :
    Prop :=
  Program.Leads (checkFreshness rules s) (⟨.act .wallTime, now⟩ :: noted) (.done out)

theorem leads_asked {α : Type} {q : Question} {next : q.Answer → Serve α} {answer : q.Answer} {t : Transcript}
    {rest : Serve α} : Program.Leads (Program.question q >>= next) (⟨q, answer⟩ :: t) rest ↔
      Program.Leads (next answer) t rest := by
  constructor
  · intro leads
    cases leads with
    | further later => exact later
  · exact .further

theorem leads_asking {α : Type} {q : Question} {next : q.Answer → Serve α} {t : Transcript} {out : α}
    (leads : Program.Leads (Program.question q >>= next) t (.done out)) : ∃ answer later, t = ⟨q, answer⟩ :: later := by
  cases leads with
  | further later => exact ⟨_, _, rfl⟩

theorem leads_ended {α : Type} {value out : α} {t : Transcript} :
    Program.Leads (pure value : Serve α) t (.done out) ↔ t = [] ∧ out = value := by
  constructor
  · intro leads
    obtain ⟨rfl, ended⟩ := Program.leads_done leads
    cases ended
    exact ⟨rfl, rfl⟩
  · rintro ⟨rfl, rfl⟩
    exact .here _

section

variable {rules : CaptureRules} {s : NamedSnapshot} {now : Timestamp} {noted : Transcript} {out : Outcome Unit}

theorem checks_fresh (fresh : staleAge? rules.maxAgeSeconds now s = none) :
    Checks rules s now noted out ↔ noted = [] ∧ out = .ok () := by
  refine leads_asked.trans ?_
  rw [fresh]
  exact leads_ended

theorem checks_stale {a : Age} (stale : staleAge? rules.maxAgeSeconds now s = some a) :
    Checks rules s now noted out ↔
      noted = [⟨.act (.note (.stale s.token a.age a.limit (rules.freshness = .reject))), ()⟩] ∧
        out = if rules.freshness = .reject then fail (a.failure s.token) else .ok () := by
  refine leads_asked.trans ?_
  rw [stale]
  constructor
  · intro leads
    obtain ⟨⟨⟩, later, rfl⟩ := leads_asking leads
    have ends := leads_asked.mp leads
    split at ends
    · obtain ⟨rfl, rfl⟩ := leads_ended.mp ends
      rename_i rejected
      exact ⟨rfl, (if_pos rejected).symm⟩
    · obtain ⟨rfl, rfl⟩ := leads_ended.mp ends
      rename_i tolerated
      exact ⟨rfl, (if_neg tolerated).symm⟩
  · rintro ⟨rfl, rfl⟩
    refine leads_asked.mpr ?_
    split <;> exact leads_ended.mpr ⟨rfl, rfl⟩

end

section

variable {c : Config.ServerSettings} {s : NamedSnapshot} {now : Timestamp} {noted : Transcript} {out : Outcome Unit}

theorem checks_young (held : c.maxAgeSeconds < wordLimit 63)
    (young : now.secondsSince s.snapshot.observedAt ≤ c.maxAgeSeconds) :
    Checks c.settings.captureRules s now noted out ↔ noted = [] ∧ out = .ok () := by
  have stale := stale_age_held held now s
  rw [if_pos young] at stale
  exact checks_fresh stale

theorem checks_old (held : c.maxAgeSeconds < wordLimit 63)
    (old : (c.maxAgeSeconds : Int) < now.secondsSince s.snapshot.observedAt) :
    Checks c.settings.captureRules s now noted out ↔
      noted = [⟨.act (.note (.stale s.token (now.secondsSince s.snapshot.observedAt) c.maxAgeSeconds
        (c.freshness = .reject))), ()⟩] ∧
      out = if c.freshness = .reject then
          fail (.stale s.token (now.secondsSince s.snapshot.observedAt) c.maxAgeSeconds)
        else .ok () := by
  have stale := stale_age_held held now s
  rw [if_neg (Int.not_le.mpr old)] at stale
  have checks : Checks c.settings.captureRules s now noted out ↔ _ := checks_stale stale
  exact checks

-- A snapshot is let pass if it is young enough, or if old ones are.
theorem checks_pass (held : c.maxAgeSeconds < wordLimit 63) (came : Checks c.settings.captureRules s now noted out) :
    out = .ok () ↔ c.freshness = .reject → now.secondsSince s.snapshot.observedAt ≤ c.maxAgeSeconds := by
  by_cases young : now.secondsSince s.snapshot.observedAt ≤ c.maxAgeSeconds
  · exact iff_of_true ((checks_young held young).mp came).2 fun _ => young
  · rw [((checks_old held (Int.not_le.mp young)).mp came).2]
    by_cases reject : c.freshness = .reject
    · rw [if_pos reject]
      exact iff_of_false nofun fun passes => young (passes reject)
    · rw [if_neg reject]
      exact iff_of_true rfl fun rejecting => absurd rejecting reject

end

/-- Where the limit that is set fits a word with a sign, a check answers whatever the time. Where old snapshots are to be
refused it fails exactly if the age in whole seconds is past the limit, and names both; where they are to be served it
never fails; what it puts on record is the same in both. With a greater limit it accepts whatever it accepts now, and
it accepts a snapshot that is still to be observed. -/
theorem freshness_exact (c : Config.ServerSettings) (held : c.maxAgeSeconds < wordLimit 63) (s : NamedSnapshot)
    (now : Timestamp) :
    (∃ noted out, Checks c.settings.captureRules s now noted out) ∧
    (∀ noted out, Checks c.settings.captureRules s now noted out →
      (c.freshness = .reject →
        ((∃ halt, out = .error halt) ↔ (c.maxAgeSeconds : Int) < now.secondsSince s.snapshot.observedAt) ∧
        ∀ halt, out = .error halt →
          halt = .failed (.stale s.token (now.secondsSince s.snapshot.observedAt) c.maxAgeSeconds)) ∧
      (c.freshness = .warn → out = .ok ()) ∧
      noted = if (c.maxAgeSeconds : Int) < now.secondsSince s.snapshot.observedAt then
          [⟨.act (.note (.stale s.token (now.secondsSince s.snapshot.observedAt) c.maxAgeSeconds
            (c.freshness = .reject))), ()⟩]
        else []) ∧
    (∀ raised : Config.ServerSettings, raised.freshness = c.freshness → c.maxAgeSeconds ≤ raised.maxAgeSeconds →
      raised.maxAgeSeconds < wordLimit 63 → ∀ noted noted' out, Checks c.settings.captureRules s now noted (.ok ()) →
        Checks raised.settings.captureRules s now noted' out → out = .ok ()) ∧
    (now.Proper → now.Before s.snapshot.observedAt → ∀ noted out,
      Checks c.settings.captureRules s now noted out → noted = [] ∧ out = .ok ()) := by
  refine ⟨?_, fun noted out came => ⟨fun reject => ⟨?_, fun halt failed => ?_⟩, fun warn => ?_, ?_⟩,
    fun raised policy greater held' noted noted' out came came' => ?_, fun proper future noted out came => ?_⟩
  · by_cases young : now.secondsSince s.snapshot.observedAt ≤ c.maxAgeSeconds
    · exact ⟨_, _, (checks_young held young).mpr ⟨rfl, rfl⟩⟩
    · exact ⟨_, _, (checks_old held (Int.not_le.mp young)).mpr ⟨rfl, rfl⟩⟩
  · have passes := checks_pass held came
    cases out with
    | ok value => exact iff_of_false nofun (Int.not_lt.mpr (passes.mp rfl reject))
    | error halt =>
        refine iff_of_true ⟨halt, rfl⟩ (Int.not_le.mp fun young => ?_)
        exact nomatch passes.mpr fun _ => young
  · by_cases young : now.secondsSince s.snapshot.observedAt ≤ c.maxAgeSeconds
    · cases failed.symm.trans ((checks_young held young).mp came).2
    · have told := ((checks_old held (Int.not_le.mp young)).mp came).2
      rw [if_pos reject, failed] at told
      exact Except.error.inj told
  · exact (checks_pass held came).mpr fun reject => by cases warn.symm.trans reject
  · by_cases old : (c.maxAgeSeconds : Int) < now.secondsSince s.snapshot.observedAt
    · rw [if_pos old]
      exact ((checks_old held old).mp came).1
    · rw [if_neg old]
      exact ((checks_young held (Int.not_lt.mp old)).mp came).1
  · have young := (checks_pass held came).mp rfl
    refine (checks_pass held' came').mpr fun reject => ?_
    have kept := young (policy ▸ reject)
    omega
  · have ahead := Timestamp.seconds_since_later proper future
    exact (checks_young held (Int.le_trans ahead (Int.natCast_nonneg _))).mp came

namespace Sample

-- A noon, and snapshots that are observed on the day after and on the day before.
def checkedAt : Timestamp := ⟨1720526400, 0⟩

def observedAhead : NamedSnapshot := ⟨"next", snapshot ⟨1720612800, 0⟩⟩

def observedBefore : NamedSnapshot := ⟨"last", snapshot ⟨1720440000, 0⟩⟩

def refusing (maxAgeSeconds : Nat) : Config.ServerSettings :=
  { instanceName := "", freshness := .reject, maxAgeSeconds := maxAgeSeconds }

theorem day_old_refused : (refusing 3600).maxAgeSeconds < wordLimit 63 ∧
    ∃ noted, Checks (refusing 3600).settings.captureRules observedBefore checkedAt noted
      (fail (.stale "last" 86400 3600)) := by
  have held : (refusing 3600).maxAgeSeconds < wordLimit 63 := by decide
  obtain ⟨⟨noted, out, came⟩, told, _⟩ := freshness_exact (refusing 3600) held observedBefore checkedAt
  obtain ⟨fails, names⟩ := (told noted out came).1 rfl
  obtain ⟨halt, rfl⟩ := fails.mpr (by decide)
  obtain rfl := names halt rfl
  exact ⟨held, noted, came⟩

-- The greatest limits are held as negative ones: what is accepted under the least of all limits is refused.
theorem greatest_limit_refuses : (refusing 9223372036854775808).maxAgeSeconds < wordLimit 64 ∧
    checkedAt.Proper ∧ checkedAt.Before observedAhead.snapshot.observedAt ∧
    Checks (refusing 0).settings.captureRules observedAhead checkedAt [] (.ok ()) ∧
    ∃ noted, Checks (refusing 9223372036854775808).settings.captureRules observedAhead checkedAt noted
      (fail (.stale "next" (-86400) (-9223372036854775808))) := by
  have fresh : staleAge? (refusing 0).settings.captureRules.maxAgeSeconds checkedAt observedAhead = none := by decide
  have stale : staleAge? (refusing 9223372036854775808).settings.captureRules.maxAgeSeconds checkedAt observedAhead =
      some ⟨-86400, -9223372036854775808⟩ := by decide
  exact ⟨by decide, ⟨by decide, by decide⟩, .inl (by decide), (checks_fresh fresh).mpr ⟨rfl, rfl⟩, _,
    (checks_stale stale).mpr ⟨rfl, rfl⟩⟩

end Sample

end GridLoad
