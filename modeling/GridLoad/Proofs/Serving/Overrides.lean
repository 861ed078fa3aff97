import GridLoad.Proofs.Feature.Overridden
import GridLoad.Proofs.Serving.Aggregation
import GridLoad.Proofs.Serving.Endpoints
import GridLoad.Proofs.Serving.Uneventful

/-!
Requests with values in the stead of others. What such a request goes on with can be asked for again by its token, with
or without the same values, and a constituent that is asked for with them gives what it gave to the virtual zone.
-/

set_option autoImplicit false

namespace GridLoad

open Program
open Relation (ReflTransGen)
open GridLoad.Time (Timestamp)

-- What a request with overriding values makes of a snapshot.
def NamedSnapshot.derived (s : NamedSnapshot) (zones : List String) (overrides : Values) : NamedSnapshot :=
  if overrides.isEmpty then s else .of (s.snapshot.withOverrides zones overrides)

-- Snapshots that nothing tells apart by name or text.
structure SameNamed (s s' : NamedSnapshot) : Prop where
  token : s.token = s'.token
  text : s.snapshot.canonicalText = s'.snapshot.canonicalText

section

variable {s s' : NamedSnapshot} {zones fewer : List String} {zone : String} {overrides : Values}

theorem derived_same (same : SameNamed s s') (zones : List String) (overrides : Values) :
    SameNamed (s.derived zones overrides) (s'.derived zones overrides) := by
  unfold NamedSnapshot.derived
  split
  · exact same
  · have text := same_text_overridden same.text zones overrides
    exact ⟨congrArg tokenOfText text, text⟩

theorem derived_plain (s : NamedSnapshot) (zones : List String) : s.derived zones .empty = s := if_pos rfl

-- The same values once more make no difference.
theorem derived_again (listed : fewer ⊆ zones) :
    (s.derived zones overrides).derived fewer overrides = s.derived zones overrides := by
  unfold NamedSnapshot.derived
  split
  · rfl
  · exact congrArg NamedSnapshot.of (Snapshot.overrides_again s.snapshot overrides listed)

theorem derived_alone (member : zone ∈ zones) :
    (s.derived zones overrides).snapshot.SameFor [zone] (s.derived [zone] overrides).snapshot := by
  unfold NamedSnapshot.derived
  split
  · exact ⟨rfl, fun _ _ => rfl⟩
  · exact Snapshot.overridden_alone s.snapshot overrides member

end

-- What a request for a token goes on with, or how it ends, by what it was told.
inductive Takes (v : Service) (zone : String) (o : Options) (token : Token) (r : Registry) (t : Transcript) :
    Outcome NamedSnapshot → Prop
  | missing (unknown : isKnown v.setup.catalog r zone = false) : Takes v zone o token r t (fail (.noModel zone))
  | lost {found : Option (NamedSnapshot × Bool)} (told : ⟨.act (.pinned token), found⟩ ∈ t)
      (expired : ∀ s, found ≠ some (s, false)) : Takes v zone o token r t (fail (.unknownSnapshot token))
  | old (s : NamedSnapshot) (a : Age) : Takes v zone o token r t (fail (a.failure s.token))
  | given {s d : NamedSnapshot} (told : ⟨.act (.pinned token), some (s, false)⟩ ∈ t)
      (derived : d = s.derived (involvedZones v.setup.catalog zone) o.overrides)
      (pinned : o.overrides.isEmpty = false → ⟨.act (.pin d), ()⟩ ∈ t) : Takes v zone o token r t (.ok d)

section

variable {v : Service} {zone : String} {o : Options} {token : Token} {r : Registry} {t : Transcript}
  {base : Outcome NamedSnapshot}

theorem takes_append (takes : Takes v zone o token r t base) (more : Transcript) :
    Takes v zone o token r (t ++ more) base := by
  cases takes with
  | missing unknown => exact .missing unknown
  | lost told expired => exact .lost (List.mem_append_left _ told) expired
  | old s a => exact .old s a
  | given told derived pinned =>
      exact .given (List.mem_append_left _ told) derived fun full => List.mem_append_left _ (pinned full)

theorem told_of_token (token : Token) (t : Transcript) : Meets anyhow
    (fun u out => (∃ s, out = .ok s ∧ ⟨.act (.pinned token), some (s, false)⟩ ∈ u) ∨
      out = fail (.unknownSnapshot token) ∧
        ∃ found, ⟨.act (.pinned token), found⟩ ∈ u ∧ ∀ s, found ≠ some (s, false))
    (pinnedSnapshot token) t := by
  refine meets_first trivial fun found _ => ?_
  match found with
  | none => exact .inr ⟨rfl, none, by simp, by simp⟩
  | some (s, false) => exact .inl ⟨s, rfl, by simp⟩
  | some (s, true) => exact meets_first trivial fun _ _ => .inr ⟨rfl, some (s, true), by simp, by simp⟩

theorem told_of_age (rules : CaptureRules) (s : NamedSnapshot) (t : Transcript) : Meets anyhow
    (fun _ out => out = .ok () ∨ ∃ a : Age, out = fail (a.failure s.token)) (checkFreshness rules s) t := by
  refine meets_first trivial fun now _ => ?_
  cases staleAge? rules.maxAgeSeconds now s with
  | none => exact .inl rfl
  | some a =>
      refine meets_first trivial fun _ _ => ?_
      split
      · exact .inr ⟨a, rfl⟩
      · exact .inl rfl

theorem told_of_derived (s : NamedSnapshot) (zones : List String) (overrides : Values) (t : Transcript) : Meets anyhow
    (fun u d => d = s.derived zones overrides ∧ (overrides.isEmpty = false → ⟨.act (.pin d), ()⟩ ∈ u))
    (deriveSnapshot s zones overrides) t := by
  unfold deriveSnapshot NamedSnapshot.derived
  split
  · rename_i empty
    exact ⟨rfl, fun full => absurd (empty.symm.trans full) (by decide)⟩
  · exact meets_first trivial fun _ _ => ⟨rfl, fun _ => by simp⟩

theorem meets_taken (asked : o.snapshot = some token) (r : Registry) (t : Transcript) :
    Meets anyhow (fun u out => Takes v zone o token r u out) (snapshotFor v.setup v.sourceName zone o) t := by
  have pinned : baseSnapshot v.setup v.sourceName o.snapshot = pinnedSnapshot token := by
    rw [asked]
    rfl
  rw [snapshotFor, pinned]
  refine meets_bind (told_of_token token t) fun u out told => ?_
  rcases told with ⟨s, rfl, told⟩ | ⟨rfl, found, told, expired⟩
  · refine meets_bind (meets_traced (told_of_age _ s u)) fun x checked both => ?_
    obtain ⟨fresh, own, rfl, _⟩ := both
    rcases fresh with rfl | ⟨a, rfl⟩
    · refine meets_bind (meets_traced (told_of_derived s _ o.overrides _)) fun y d both => ?_
      obtain ⟨⟨derived, pinned⟩, own', rfl, _⟩ := both
      exact .given (by simp [told]) derived pinned
    · exact .old s a
  · exact .lost told expired

theorem meets_takes (asked : o.snapshot = some token) :
    Meets anyhow (fun u both => Takes v zone o token both.1 u both.2) (v.basis zone o) [] := by
  refine meets_first trivial fun r _ => ?_
  cases known : isKnown v.setup.catalog r zone with
  | false => exact .missing known
  | true => exact meets_bind (meets_taken asked r _) fun u out takes => takes

theorem rests_taken (rests : v.Rests zone o t r base) (asked : o.snapshot = some token) :
    Takes v zone o token r t base := by
  obtain ⟨own, further, rfl, leads⟩ := rests
  exact takes_append (meets_leads (meets_takes asked) leads fun _ _ => trivial) further

end

-- The answer is neither late nor a refusal of an old snapshot.
structure Undelayed {α : Type} (v : Service) (out : Outcome α) : Prop where
  inTime : out ≠ fail (.timedOut v.setup.settings.requestTimeout)
  fresh : ∀ token age limit, out ≠ fail (.stale token age limit)

section

variable {v : Service} {first : Registry} {w w' : World} {zone : String} {horizon : Nat} {o : Options} {token : Token}
  {tokens : List Token} {r : Registry} {t : Transcript} {out : Outcome Prediction} {n : Nat}

-- What an answer for a token comes to.
theorem answered_takes (reachable : Reachable v first w) (distinct : w.ledger.Distinct) (asked : o.snapshot = some token)
    (answered : w.Answered (.predict zone horizon o) t out)
    (inTime : out ≠ fail (.timedOut v.setup.settings.requestTimeout)) :
    ∃ r base, ⟨.act .registry, r⟩ ∈ t ∧ Takes v zone o token r t base ∧ w.ledger.Founds v zone o r base ∧
      ∀ now, Agree out (base.bind fun d => uncached v.setup r zone horizon d now) := by
  obtain ⟨r, base, rests, founds, same⟩ := forecast_transparent distinct (predict_concludes reachable answered) inTime
  obtain ⟨more, took⟩ := rests_takes rests
  exact ⟨r, base, by simp [took], rests_taken rests asked, founds, same⟩

-- A request for a token that can be found is answered with what its snapshot gives.
theorem answered_derived (reachable : Reachable v first w) (distinct : w.ledger.Distinct)
    (asked : o.snapshot = some token) (member : token ∈ tokens)
    (answered : w.AnsweredSince n (.predict zone horizon o) t out) (undelayed : Undelayed v out)
    (finds : w.SaidSince n (Finds tokens)) (fits : w.SaidSince n (Fits r tokens w'))
    (known : isKnown v.setup.catalog r zone = true) :
    ∃ s, w.ledger.Knows s ∧ s.token = token ∧
      ∀ now, Agree out (uncached v.setup r zone horizon
        (s.derived (involvedZones v.setup.catalog zone) o.overrides) now) := by
  have whole := answered_since answered
  obtain ⟨r', base, took, takes, _, same⟩ := answered_takes reachable distinct asked whole undelayed.inTime
  obtain rfl : r' = r := answered_said answered fits _ took
  cases takes with
  | missing unknown => exact absurd (known.symm.trans unknown) (by decide)
  | lost told expired =>
      obtain ⟨s, found⟩ := answered_said answered finds _ told member
      exact absurd found (expired s)
  | old s a => exact absurd (agree_error_iff.mp (same ⟨0, 0⟩)) (undelayed.fresh _ _ _)
  | @given s d told derived =>
      obtain ⟨known, named⟩ := answered_vouched reachable whole _ told s false rfl
      exact ⟨s, known, named, derived ▸ same⟩

-- A sum is recorded as its constituents gave their parts of it.
theorem sum_of_parts {setup : Setup} {d : NamedSnapshot} {g : Group} {p : Prediction} {now : Timestamp}
    (virtual : setup.catalog.get? zone = some g) (same : Agree (.ok p) (uncached setup r zone horizon d now)) :
    p.token = d.token ∧ ∃ parts : List (Prediction × Float),
      p.source = .members setup.settings.combination.label (parts.map fun part => part.1.memberShare part.2) ∧
      List.Forall₂ (fun m part => alone setup r horizon d now m.zone = .ok part.1 ∧ part.2 = m.weight) g.members
        parts := by
  have whole : Agree (.ok p) (sumUp setup.settings.combination g horizon d.token now
      (gather (m := Id) (alone setup r horizon d now) g horizon d.token g.members).outcome) := by
    simp only [uncached, virtual] at same
    rw [← group_forecast_alone]
    exact same
  cases gathered : (gather (m := Id) (alone setup r horizon d now) g horizon d.token g.members).outcome with
  | error halt =>
      rw [gathered] at whole
      cases agree_error_iff.mp whole
  | ok parts =>
      rw [gathered] at whole
      obtain ⟨q, made, dated⟩ := agree_ok_iff.mp whole
      cases made
      have token : p.token = d.token := (Prediction.undated_aim dated).2.2
      have source := congrArg Prediction.source dated
      exact ⟨token, parts, source, gather_alone_parts gathered⟩

-- A part that is computed again is recorded as before.
theorem share_again {p q : Prediction} (same : p.undated = q.undated) (weight : Float) :
    p.memberShare weight = q.memberShare weight := by
  have share : p.undated.memberShare weight = q.undated.memberShare weight := by rw [same]
  exact share

theorem share_renamed {p q : Prediction} {token token' : Token} (renamed : p.Renamed token token' q) (weight : Float) :
    p.memberShare weight = q.memberShare weight := by
  have same : { p with token := token' }.memberShare weight = q.memberShare weight := share_again renamed.2 weight
  exact same

theorem alone_known {setup : Setup} {s : NamedSnapshot} {now : Timestamp} {p : Prediction}
    (computed : alone setup r horizon s now zone = .ok p) : isKnown setup.catalog r zone = true := by
  cases known : isKnown setup.catalog r zone with
  | true => rfl
  | false =>
      cases (missing_alone (v := ⟨setup, ""⟩) known now).symm.trans computed

end

-- What a virtual zone's forecast with overriding values rests on: a snapshot that the values were put into, and what the
-- constituents gave for the one derived from it.
structure Composed (v : Service) (w : World) (r : Registry) (zone : String) (g : Group) (horizon : Nat) (token : Token)
    (overrides : Values) (p : Prediction) (s : NamedSnapshot) (parts : List (Prediction × Float)) : Prop where
  known : w.ledger.Knows s
  named : s.token = token
  kept : w.ledger.Knows (s.derived g.memberIds overrides)
  token : p.token = (s.derived g.memberIds overrides).token
  source : p.source = .members v.setup.settings.combination.label (parts.map fun part => part.1.memberShare part.2)
  whole : Agree (.ok p) (uncached v.setup r zone horizon (s.derived g.memberIds overrides) ⟨0, 0⟩)
  each : List.Forall₂
    (fun m part => alone v.setup r horizon (s.derived g.memberIds overrides) ⟨0, 0⟩ m.zone = .ok part.1 ∧
      part.2 = m.weight) g.members parts

section

variable {v : Service} {first : Registry} {w w₁ : World} {zone : String} {g : Group} {horizon : Nat} {token : Token}
  {overrides : Values} {tokens : List Token} {r : Registry} {t : Transcript} {p : Prediction} {n : Nat}

theorem involved_members (virtual : v.setup.catalog.get? zone = some g) :
    involvedZones v.setup.catalog zone = g.memberIds := by
  simp only [involvedZones, virtual]

theorem composed (reachable : Reachable v first w) (distinct : w.ledger.Distinct)
    (virtual : v.setup.catalog.get? zone = some g)
    (made : w₁.AnsweredSince n (.predict zone horizon ⟨some token, overrides⟩) t (.ok p))
    (still : w.Answered (.predict zone horizon ⟨some token, overrides⟩) t (.ok p))
    (fits : w₁.SaidSince n (Fits r tokens w₁)) :
    ∃ s parts, Composed v w r zone g horizon token overrides p s parts ∧ (token ∈ tokens → w₁.Resolves token) ∧
      (p.token ∈ tokens → w₁.Resolves p.token) := by
  obtain ⟨r', base, took, takes, founds, same⟩ := answered_takes reachable distinct rfl still (by nofun)
  obtain rfl : r' = r := answered_said made fits _ took
  have agree := same ⟨0, 0⟩
  cases takes with
  | missing => cases agree_error_iff.mp agree
  | lost => cases agree_error_iff.mp agree
  | old => cases agree_error_iff.mp agree
  | @given s d told derived pinned =>
      rw [involved_members virtual] at derived
      subst derived
      obtain ⟨known, named⟩ := answered_vouched reachable still _ told s false rfl
      obtain ⟨tokens, parts, source, each⟩ := sum_of_parts virtual agree
      have found : token ∈ _ → w₁.Resolves token := fun member => answered_said made fits _ told member s rfl
      refine ⟨s, parts, ⟨known, named, founds_known founds, tokens, source, agree, each⟩, found, fun member => ?_⟩
      cases empty : overrides.isEmpty with
      | true =>
          have plain : p.token = token := by rw [tokens, NamedSnapshot.derived, if_pos empty, named]
          rw [plain] at member ⊢
          exact found member
      | false =>
          rw [tokens] at member ⊢
          exact answered_said made fits _ (pinned empty) member

end

section

variable {v : Service} {first : Registry} {w : World} {zone : String} {g : Group} {horizon : Nat} {token : Token}
  {overrides : Values} {r : Registry} {p : Prediction} {s s' : NamedSnapshot} {parts : List (Prediction × Float)}
  {out : Outcome Prediction} {m : Member} {part : Prediction × Float}

theorem known_same (distinct : w.ledger.Distinct) (known : w.ledger.Knows s) (known' : w.ledger.Knows s')
    (tokens : s.token = s'.token) : SameNamed s s' :=
  ⟨tokens, distinct.tokens s known s' known' tokens⟩

-- To ask for the whole by its token gives it again, with or without the values.
theorem whole_again (distinct : w.ledger.Distinct) (virtual : v.setup.catalog.get? zone = some g)
    (composed : Composed v w r zone g horizon token overrides p s parts) (known : w.ledger.Knows s')
    (named : s'.token = p.token) {values : Values} (values_of : values = .empty ∨ values = overrides)
    (agree : Agree out (uncached v.setup r zone horizon
      (s'.derived (involvedZones v.setup.catalog zone) values) ⟨0, 0⟩)) :
    ∃ q, out = .ok q ∧ q.token = p.token ∧ q.undated = p.undated := by
  have same := derived_same (known_same distinct known composed.kept (named.trans composed.token)) g.memberIds values
  have again : (s.derived g.memberIds overrides).derived g.memberIds values = s.derived g.memberIds overrides := by
    rcases values_of with rfl | rfl
    · exact derived_plain _ _
    · exact derived_again (List.Subset.refl _)
  rw [again] at same
  rw [involved_members virtual] at agree
  have equal := agree_trans agree (agree_trans (uncached_same_text same.token same.text ⟨0, 0⟩ ⟨0, 0⟩)
    (agree_symm composed.whole))
  obtain ⟨q, rfl, dated⟩ := agree_ok_iff.mp equal
  exact ⟨q, rfl, (Prediction.undated_aim dated).2.2, dated⟩

theorem uncached_alone (real : v.setup.catalog.get? zone = none) (d : NamedSnapshot) (now : Timestamp) :
    uncached v.setup r zone horizon d now = alone v.setup r horizon d now zone := by
  simp only [uncached, real, alone]

theorem alone_same (same : SameNamed s s') (now : Timestamp) :
    Agree (alone v.setup r horizon s now zone) (alone v.setup r horizon s' now zone) :=
  zone_forecast_same_text v.setup.settings.confidenceLevel r zone horizon same.token same.text now now

-- A constituent that is asked by the token of the whole gives its part.
theorem part_again (distinct : w.ledger.Distinct) (composed : Composed v w r zone g horizon token overrides p s parts)
    (real : v.setup.catalog.get? m.zone = none) (member : m ∈ g.members)
    (gave : alone v.setup r horizon (s.derived g.memberIds overrides) ⟨0, 0⟩ m.zone = .ok part.1)
    (known : w.ledger.Knows s') (named : s'.token = p.token)
    (agree : Agree out (uncached v.setup r m.zone horizon
      (s'.derived (involvedZones v.setup.catalog m.zone) overrides) ⟨0, 0⟩)) :
    ∃ q, out = .ok q ∧ q.token = p.token ∧ q.undated = part.1.undated := by
  have involved : m.zone ∈ g.memberIds := List.mem_map_of_mem member
  have same := derived_same (known_same distinct known composed.kept (named.trans composed.token)) [m.zone] overrides
  rw [derived_again (by simpa using involved)] at same
  simp only [involvedZones, real, uncached_alone real] at agree
  have equal := agree_trans agree (alone_same same ⟨0, 0⟩)
  rw [gave] at equal
  obtain ⟨q, rfl, dated⟩ := agree_ok_iff.mp equal
  obtain ⟨version, shares, shape⟩ := zone_forecast_shape gave
  have token : part.1.token = p.token := by
    rw [shape, composed.token]
    rfl
  exact ⟨q, rfl, (Prediction.undated_aim dated).2.2.trans token, dated⟩

-- A constituent that is asked as the whole was gives its part, under another name.
theorem part_renamed (distinct : w.ledger.Distinct) (composed : Composed v w r zone g horizon token overrides p s parts)
    (real : v.setup.catalog.get? m.zone = none) (member : m ∈ g.members)
    (gave : alone v.setup r horizon (s.derived g.memberIds overrides) ⟨0, 0⟩ m.zone = .ok part.1)
    (known : w.ledger.Knows s') (named : s'.token = token)
    (agree : Agree out (uncached v.setup r m.zone horizon
      (s'.derived (involvedZones v.setup.catalog m.zone) overrides) ⟨0, 0⟩)) (weight : Float) :
    ∃ q, out = .ok q ∧ q.memberShare weight = part.1.memberShare weight := by
  have involved : m.zone ∈ g.memberIds := List.mem_map_of_mem member
  have same := derived_same (known_same distinct known composed.known (named.trans composed.named.symm)) [m.zone]
    overrides
  have renamed : RenamedForecast (s.derived g.memberIds overrides).token (s.derived [m.zone] overrides).token
      (alone v.setup r horizon (s.derived g.memberIds overrides) ⟨0, 0⟩ m.zone)
      (alone v.setup r horizon (s.derived [m.zone] overrides) ⟨0, 0⟩ m.zone) :=
    zone_forecast_renamed rfl rfl (derived_alone involved)
  simp only [involvedZones, real, uncached_alone real] at agree
  have equal := agree_trans agree (alone_same same ⟨0, 0⟩)
  rw [gave] at renamed
  generalize alone v.setup r horizon (s.derived [m.zone] overrides) ⟨0, 0⟩ m.zone = other at renamed equal
  cases renamed with
  | value shared =>
      obtain ⟨q, rfl, dated⟩ := agree_ok_iff.mp equal
      exact ⟨q, rfl, (share_again dated weight).trans (share_renamed shared weight).symm⟩

end

section

variable {v : Service} {first : Registry} {w₀ w₁ w₂ : World} {zone : String} {horizon : Nat} {token : Token}
  {overrides : Values} {t : Transcript} {p : Prediction}

/-- A forecast of a virtual zone with values in the stead of others can be had again: for as long as no registry is
replaced and neither its own token nor the one that it was asked for expires, its token gives it with and without the
same values. Each constituent can be had with these values by either token, and gives exactly what is recorded of it. -/
theorem overrides_replayed (reachable : Reachable v first w₀)
    (before : ReflTransGen (Uneventful v [token, p.token]) w₀ w₁)
    (between : ReflTransGen (Uneventful v [token, p.token]) w₁ w₂) (counted : w₂.Counted first)
    (separate : w₂.Separate) {g : Group} (virtual : v.setup.catalog.get? zone = some g)
    (made : w₁.AnsweredSince w₀.flights.length (.predict zone horizon ⟨some token, overrides⟩) t (.ok p)) :
    (∀ o, o = { snapshot := some p.token } ∨ o = ⟨some p.token, overrides⟩ → ∀ u out,
      w₂.AnsweredSince w₁.flights.length (.predict zone horizon o) u out → Undelayed v out →
      ∃ q, out = .ok q ∧ q.token = p.token ∧ q.undated = p.undated) ∧
    ∃ shares, p.source = .members v.setup.settings.combination.label shares ∧
      List.Forall₂ (fun (m : Member) share =>
        (∀ u out, w₂.AnsweredSince w₁.flights.length (.predict m.zone horizon ⟨some p.token, overrides⟩) u out →
          Undelayed v out → ∃ q, out = .ok q ∧ q.token = p.token ∧ q.memberShare m.weight = share) ∧
        ∀ u out, w₂.AnsweredSince w₁.flights.length (.predict m.zone horizon ⟨some token, overrides⟩) u out →
          Undelayed v out → ∃ q, out = .ok q ∧ q.memberShare m.weight = share) g.members shares := by
  have reached := uneventful_reachable (uneventful_reachable reachable before) between
  have distinct := reachable_distinct reached counted separate
  have still := answered_since (answered_on between made)
  obtain ⟨s, parts, composed, asked, own⟩ := composed reached distinct virtual made still (fits_since before)
  have finds : w₂.SaidSince w₁.flights.length (Finds [token, p.token]) := by
    refine finds_since between fun named member => ?_
    rcases List.mem_cons.mp member with rfl | member
    · exact asked (by simp)
    · rw [List.mem_singleton.mp member]
      exact own (by simp)
  have fits := fits_since between
  rw [serves_on before] at fits
  refine ⟨fun o either u out answered undelayed => ?_, _, composed.source, ?_⟩
  · have snapshot : o.snapshot = some p.token := by rcases either with rfl | rfl <;> rfl
    have values : o.overrides = .empty ∨ o.overrides = overrides := by
      rcases either with rfl | rfl
      · exact .inl rfl
      · exact .inr rfl
    have there : isKnown v.setup.catalog w₀.engine.publication.current zone = true := by
      simp [isKnown, Catalog.contains, Table.contains, show v.setup.catalog.groups.get? zone = some g from virtual]
    obtain ⟨s', known, named, agree⟩ :=
      answered_derived reached distinct snapshot (by simp) answered undelayed finds fits there
    exact whole_again distinct virtual composed known named values (agree ⟨0, 0⟩)
  · have real := (reachable_flat reached).flat zone g virtual
    refine List.forall₂_map_right_iff.mpr ?_
    refine ((List.forall₂_and_left _ _).mpr ⟨fun m member => member, composed.each⟩).imp ?_
    rintro m part ⟨member, gave, declared⟩
    rw [declared]
    have there := alone_known gave
    refine ⟨fun u out answered undelayed => ?_, fun u out answered undelayed => ?_⟩
    · obtain ⟨s', known, named, agree⟩ :=
        answered_derived reached distinct rfl (by simp) answered undelayed finds fits there
      obtain ⟨q, same, tokens, dated⟩ := part_again distinct composed (real m member) member gave known named (agree ⟨0, 0⟩)
      exact ⟨q, same, tokens, share_again dated m.weight⟩
    · obtain ⟨s', known, named, agree⟩ :=
        answered_derived reached distinct rfl (by simp) answered undelayed finds fits there
      exact part_renamed distinct composed (real m member) member gave known named (agree ⟨0, 0⟩) m.weight

end

namespace Sample

/-! The worked example on a warmer day: a forecast with another temperature, and then the same and a constituent's, by
either token. -/

def warmer : Values := Table.ofList [("temperature_f", 101)]

def inStead (token : Token) : Options := ⟨some token, warmer⟩

@[irreducible] def opened : World := played {} morning (opening (.predict "LA_METRO" 24 {}))

def asking : List Move := later 1 (.predict "LA_METRO" 24 (inStead token))

@[irreducible] def overridden : World := opened.play service asking

-- The token of what was derived.
def warmed : Token := (overridden.history.named.getLast?.map (·.token)).getD ""

def asksAgain : List Ask :=
  [.predict "LA_METRO" 24 { snapshot := some warmed }, .predict "SCE" 24 (inStead warmed),
    .predict "SCE" 24 (inStead token)]

def askingAgain : List Move := (asksAgain.zipIdx 2).flatMap fun ask => later ask.2 ask.1

@[irreducible] def replayed : World := overridden.play service askingAgain

def names (token : Token) : Outcome Prediction → Bool
  | .ok p => p.token = token
  | .error _ => false

theorem replayed_evaluated :
    (opened.playsQuietly service [token, warmed] asking = true ∧
      overridden.playsQuietly service [token, warmed] askingAgain = true) ∧
    (opened.flights.length = 1 ∧ overridden.flights.length = 2) ∧
    (overridden.flights[1]?.any (Flight.answers (.predict "LA_METRO" 24 (inStead token)) (names warmed)) = true ∧
      replayed.flights[2]?.any (Flight.answers (.predict "LA_METRO" 24 { snapshot := some warmed }) Except.toBool) =
        true ∧
      replayed.flights[3]?.any (Flight.answers (.predict "SCE" 24 (inStead warmed)) Except.toBool) = true ∧
      replayed.flights[4]?.any (Flight.answers (.predict "SCE" 24 (inStead token)) Except.toBool) = true) ∧
    (replayed.history.numbers = [] ∧ ∀ s ∈ replayed.history.named, ∀ s' ∈ replayed.history.named,
      s.token = s'.token → s.snapshot = s'.snapshot) := by decide +kernel

theorem opened_reachable : Reachable service (registry 1) opened := by
  obtain ⟨_, _, _, _, valid, _⟩ := evaluated
  unfold opened
  exact played_reachable valid morning _

theorem asking_uneventful : ReflTransGen (Uneventful service [token, warmed]) opened overridden := by
  obtain ⟨⟨first, _⟩, _⟩ := replayed_evaluated
  unfold overridden
  exact plays_uneventful first

theorem again_uneventful : ReflTransGen (Uneventful service [token, warmed]) overridden replayed := by
  obtain ⟨⟨_, second⟩, _⟩ := replayed_evaluated
  unfold replayed
  exact plays_uneventful second

theorem replayed_counted : replayed.Counted (registry 1) := by
  obtain ⟨_, _, _, none, _⟩ := replayed_evaluated
  rw [World.Counted, none]
  decide

theorem replayed_separate : replayed.Separate := by
  obtain ⟨_, _, _, _, once⟩ := replayed_evaluated
  have reached := uneventful_reachable (uneventful_reachable opened_reachable asking_uneventful) again_uneventful
  intro s member s' member' same
  have own := named_own reached s member
  have own' := named_own reached s' member'
  rw [once s member s' member' (own.trans (same.trans own'.symm))]

theorem answers_undelayed (p : Prediction) : Undelayed service (.ok p) := ⟨by nofun, by nofun⟩

theorem warmed_again : ∃ t u u' u'' p q q' q'' share shares,
    overridden.AnsweredSince opened.flights.length (.predict "LA_METRO" 24 (inStead token)) t (.ok p) ∧
    p.source = .members service.setup.settings.combination.label (share :: shares) ∧
    replayed.AnsweredSince overridden.flights.length (.predict "LA_METRO" 24 { snapshot := some p.token }) u (.ok q) ∧
    q.undated = p.undated ∧
    replayed.AnsweredSince overridden.flights.length (.predict "SCE" 24 (inStead p.token)) u' (.ok q') ∧
    q'.token = p.token ∧ q'.memberShare 0.79 = share ∧
    replayed.AnsweredSince overridden.flights.length (.predict "SCE" 24 (inStead token)) u'' (.ok q'') ∧
    q''.memberShare 0.79 = share := by
  obtain ⟨_, ⟨one, two⟩, ⟨whole, again, part, renamed⟩, _⟩ := replayed_evaluated
  obtain ⟨t, out, made, named⟩ := answered_at whole (Nat.le_of_eq one)
  obtain ⟨u, _, answered, ok⟩ := answered_at again (Nat.le_of_eq two)
  obtain ⟨u', _, answered', ok'⟩ := answered_at part (Nat.le_of_eq two |>.trans (by decide))
  obtain ⟨u'', _, answered'', ok''⟩ := answered_at renamed (Nat.le_of_eq two |>.trans (by decide))
  obtain ⟨q, rfl⟩ := ok_of_to_bool ok
  obtain ⟨q', rfl⟩ := ok_of_to_bool ok'
  obtain ⟨q'', rfl⟩ := ok_of_to_bool ok''
  cases out with
  | error halt => cases named
  | ok p =>
      have same : p.token = warmed := of_decide_eq_true named
      have before := asking_uneventful
      have between := again_uneventful
      rw [← same] at before between answered answered'
      obtain ⟨replays, shares, source, parts⟩ := overrides_replayed opened_reachable before between replayed_counted
        replayed_separate group_served made
      obtain ⟨_, ⟨⟩, _, dated⟩ := replays _ (.inl rfl) u _ answered (answers_undelayed q)
      cases parts with
      | @cons _ share _ shares first _ =>
          obtain ⟨_, ⟨⟩, tokens, shared⟩ := first.1 u' _ answered' (answers_undelayed q')
          obtain ⟨_, ⟨⟩, shared'⟩ := first.2 u'' _ answered'' (answers_undelayed q'')
          exact ⟨t, u, u', u'', p, q, q', q'', share, shares, made, source, answered, dated, answered', tokens, shared,
            answered'', shared'⟩

end Sample

end GridLoad
