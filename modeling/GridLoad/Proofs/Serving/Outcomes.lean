import GridLoad.Proofs.Serving.Numbers

/-!
The answers that a service has given by some moment, and what each of them is, in terms of what the request rests on.
-/

set_option autoImplicit false

namespace GridLoad

open Program
open GridLoad.Time (Timestamp)

namespace World

-- A request has come to its end, with these exchanges and this answer.
def Answered (w : World) (ask : Ask) (t : Transcript) (value : ask.Answer) : Prop :=
  ∃ caller dropped, (⟨caller, ask, t, .done value, dropped⟩ : Flight) ∈ w.flights

-- No two texts of snapshots that were named have one token.
def Separate (w : World) : Prop :=
  ∀ s ∈ w.history.named, ∀ s' ∈ w.history.named, s.snapshot.token = s'.snapshot.token →
    s.snapshot.canonicalText = s'.snapshot.canonicalText

end World

-- The registry that a request took first, and the snapshot that it went on with.
structure RestsOn (v : Service) (w : World) (zone : String) (o : Options) (t : Transcript) (r : Registry)
    (s : NamedSnapshot) : Prop where
  took : ∃ more, t = ⟨.act .registry, r⟩ :: more
  rests : v.Rests zone o t r (.ok s)
  served : r ∈ w.history.published
  named : s ∈ w.history.named

section

variable {v : Service} {first : Registry} {w : World}

-- What was answered is what the program came to, told what it was told; and all of that is vouched for.
theorem answered_leads (reachable : Reachable v first w) {ask : Ask} {t : Transcript} {value : ask.Answer}
    (answered : w.Answered ask t value) : Leads (ask.program v) t (.done value) := by
  obtain ⟨caller, dropped, member⟩ := answered
  exact ((reachable_sound reachable).flights _ member).led

theorem answered_vouched (reachable : Reachable v first w) {ask : Ask} {t : Transcript} {value : ask.Answer}
    (answered : w.Answered ask t value) : ∀ x ∈ t, w.ledger.Vouches v.setup x.question x.answer := by
  obtain ⟨caller, dropped, member⟩ := answered
  exact ((reachable_sound reachable).flights _ member).vouched

theorem numbered_once (numbered : Numbered first w) {r r' : Registry} (served : r ∈ w.history.published)
    (served' : r' ∈ w.history.published) (same : r.generation = r'.generation) : r = r' := by
  have apart := List.pairwise_iff_getElem.mp numbered.distinct
  obtain ⟨i, inside, rfl⟩ := List.getElem_of_mem served
  obtain ⟨j, inside', rfl⟩ := List.getElem_of_mem served'
  rcases Nat.lt_trichotomy i j with before | rfl | after
  · exact absurd same (apart i j inside inside' before)
  · rfl
  · exact absurd same.symm (apart j i inside' inside after)

theorem reachable_distinct (reachable : Reachable v first w) (counted : w.Counted first) (separate : w.Separate) :
    w.ledger.Distinct where
  registries _ served _ served' same := numbered_once (reachable_numbered reachable counted) served served' same
  tokens s known s' known' same := by
    apply separate s known.1 s' known'.1
    rw [← known.2, ← known'.2, same]

-- Whatever was named bears its own token.
theorem named_own (reachable : Reachable v first w) : ∀ s ∈ w.history.named, s.token = s.snapshot.token := by
  induction reachable with
  | launched => exact fun s none => nomatch none
  | @further v first w w' before step ih =>
      cases step with
      | @acts i f a next there live turn =>
          have allowed := Flight.sound_allowed (reachable_flat before)
            ((reachable_sound before).flights f (World.flight_mem there)) turn
          cases a with
          | pin s =>
              intro named member
              rcases List.mem_append.mp member with old | new
              · exact ih named old
              · rw [List.mem_singleton.mp new]
                exact allowed
          | _ => exact ih
      | fetched id =>
          intro named member
          rcases List.mem_append.mp member with old | new
          · exact ih named old
          · rw [Option.mem_toList, Captures.fetched?] at new
            split at new
            · cases new
              rfl
            · cases new
      | _ => exact ih

theorem answered_meets (reachable : Reachable v first w) {ask : Ask} {t : Transcript} {value : ask.Answer}
    (answered : w.Answered ask t value) {post : Transcript → ask.Answer → Prop}
    (met : Meets (w.ledger.conduct v.setup) post (ask.program v) []) : post t value := by
  obtain ⟨caller, dropped, member⟩ := answered
  have sound := (reachable_sound reachable).flights _ member
  exact meets_leads met sound.led sound.vouched

variable {zone : String} {horizon : Nat} {o : Options} {t : Transcript} {r : Registry} {base : Outcome NamedSnapshot}

-- The first thing that a forecast asks for is the registry.
theorem rests_takes (rests : v.Rests zone o t r base) : ∃ more, t = ⟨.act .registry, r⟩ :: more := by
  obtain ⟨own, further, rfl, leads⟩ := rests
  have met : Meets anyhow (fun u both => ∃ more, u = ⟨.act .registry, both.1⟩ :: more) (v.basis zone o) [] := by
    refine meets_first trivial fun r _ => ?_
    cases isKnown v.setup.catalog r zone with
    | false => exact ⟨[], rfl⟩
    | true =>
        refine meets_bind (meets_traced (meets_anyhow _ _)) fun u base traced => ?_
        obtain ⟨_, own, rfl, _⟩ := traced
        exact ⟨own, rfl⟩
  obtain ⟨more, rfl⟩ := meets_leads met leads fun _ _ => trivial
  exact ⟨more ++ further, rfl⟩

theorem rests_on {s : NamedSnapshot} (rests : v.Rests zone o t r (.ok s))
    (founds : w.ledger.Founds v zone o r (.ok s)) : RestsOn v w zone o t r s :=
  ⟨rests_takes rests, rests, founds.served, (founds_known founds).1⟩

-- What a forecast comes to, if it is not given up for want of time.
theorem predict_concludes (reachable : Reachable v first w) {out : Outcome Prediction}
    (answered : w.Answered (.predict zone horizon o) t out) :
    w.ledger.Concludes v zone o (fun r s out => w.ledger.Answers v.setup r horizon s zone out) t out :=
  answered_meets reachable answered (meets_predict (reachable_flat reachable) horizon)

theorem trend_concludes (reachable : Reachable v first w) {horizons : List Nat} {out : Outcome (List Prediction)}
    (answered : w.Answered (.trend zone horizons o) t out) :
    w.ledger.Concludes v zone o (fun r s out => w.ledger.AnswersAll v.setup r zone s horizons out) t out :=
  answered_meets reachable answered (meets_trend (reachable_flat reachable) horizons)

theorem settled_in_time {α : Type} {setup : Setup} {raw : Outcome α}
    (inTime : settled setup raw ≠ fail (.timedOut setup.settings.requestTimeout)) :
    settled setup raw = raw ∧ raw ≠ .error .outOfTime := by
  match raw with
  | .ok value => exact ⟨rfl, by simp⟩
  | .error .pastCalendar => exact ⟨rfl, by simp⟩
  | .error (.failed f) => exact ⟨rfl, by simp⟩
  | .error .outOfTime => exact absurd rfl inTime

-- An operation that ends in time ends as it was begun: with what kept it from a snapshot, or with what is right for one.
theorem concludes_in_time {α : Type} {right : Registry → NamedSnapshot → Outcome α → Prop} {out : Outcome α}
    (concludes : w.ledger.Concludes v zone o right t out)
    (inTime : out ≠ fail (.timedOut v.setup.settings.requestTimeout)) :
    ∃ r base, v.Rests zone o t r base ∧ w.ledger.Founds v zone o r base ∧ out ≠ .error .outOfTime ∧
      (∀ halt, base = .error halt → out = .error halt) ∧ ∀ s, base = .ok s → right r s out := by
  obtain ⟨r, base, raw, rests, founds, rfl, halts, gives⟩ := concludes
  obtain ⟨same, early⟩ := settled_in_time inTime
  rw [same]
  exact ⟨r, base, rests, founds, early, halts, gives⟩

theorem settled_ok {α : Type} {setup : Setup} {raw : Outcome α} {value : α} (settles : .ok value = settled setup raw) :
    raw = .ok value := by
  match raw with
  | .ok value => exact settles.symm
  | .error .pastCalendar => cases settles
  | .error (.failed f) => cases settles
  | .error .outOfTime => cases settles

-- Where a value comes out there was a snapshot, and the value is right for it.
theorem concludes_ok {α : Type} {right : Registry → NamedSnapshot → Outcome α → Prop} {value : α}
    (concludes : w.ledger.Concludes v zone o right t (.ok value)) :
    ∃ r s, v.Rests zone o t r (.ok s) ∧ w.ledger.Founds v zone o r (.ok s) ∧ right r s (.ok value) := by
  obtain ⟨r, base, raw, rests, founds, settles, halts, gives⟩ := concludes
  obtain rfl : raw = .ok value := settled_ok settles
  cases base with
  | error halt => cases halts halt rfl
  | ok s => exact ⟨r, s, rests, founds, gives s rfl⟩

-- A description says nothing of a forecast yet.
theorem described_alone {c : Catalog} {r : Registry} {described : ZoneStatus}
    (known : describe c r zone = .ok described) : described.current = none ∧ described.currentError = none := by
  unfold describe at known
  split at known
  · cases known
    exact ⟨rfl, rfl⟩
  · cases known
    exact ⟨rfl, rfl⟩
  · cases known

theorem status_current {c : Catalog} {r : Registry} {described status : ZoneStatus} {last : Option Timestamp}
    {forecast : Outcome Prediction} {p : Prediction} (known : describe c r zone = .ok described)
    (shown : .ok status = Service.statusFrom described last forecast) (current : status.current = some p) :
    forecast = .ok p := by
  match forecast with
  | .ok q =>
      cases shown
      cases current
      rfl
  | .error (.failed f) =>
      cases shown
      have none : described.current = some p := current
      rw [(described_alone known).1] at none
      cases none
  | .error .pastCalendar => cases shown
  | .error .outOfTime => cases shown

-- The same as for an operation: where a status has a forecast there was a snapshot.
theorem status_ok (reachable : Reachable v first w) {status : ZoneStatus} {p : Prediction}
    (answered : w.Answered (.status zone) t (.ok status)) (current : status.current = some p) :
    ∃ r s, v.Rests zone {} t r (.ok s) ∧ w.ledger.Founds v zone {} r (.ok s) ∧
      w.ledger.Answers v.setup r v.setup.settings.statusHorizon s zone (.ok p) := by
  obtain ⟨raw, ⟨r, base, rests, founds, pictures⟩, settles⟩ :=
    answered_meets reachable answered (meets_status (reachable_flat reachable))
  obtain rfl : raw = .ok status := settled_ok settles
  rcases pictures with ⟨_, _, failed⟩ | ⟨described, forecast, last, known, shown, halts, gives⟩
  · cases failed
  · obtain rfl : forecast = .ok p := status_current known shown current
    cases base with
    | error halt => cases halts halt rfl
    | ok s => exact ⟨r, s, rests, founds, gives s rfl⟩

theorem status_error {c : Catalog} {r : Registry} {described status : ZoneStatus} {last : Option Timestamp}
    {forecast : Outcome Prediction} {text : String} (known : describe c r zone = .ok described)
    (shown : .ok status = Service.statusFrom described last forecast) (current : status.currentError = some text) :
    ∃ f, forecast = fail f ∧ text = f.message := by
  match forecast with
  | .ok q =>
      cases shown
      have none : described.currentError = some text := current
      rw [(described_alone known).2] at none
      cases none
  | .error (.failed f) =>
      cases shown
      cases current
      exact ⟨f, rfl, rfl⟩
  | .error .pastCalendar => cases shown
  | .error .outOfTime => cases shown

end

end GridLoad
