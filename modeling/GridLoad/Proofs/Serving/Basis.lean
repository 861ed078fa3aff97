import GridLoad.Proofs.Serving.Lookups
import GridLoad.Proofs.Serving.Operated

/-!
What a forecast rests on: the registry that was served when the request took it, and one snapshot. A request that
gets no snapshot, or asks for a zone that is not there, ends before anything is looked up.
-/

set_option autoImplicit false

namespace GridLoad

open Program

-- The exchanges of a request began with these.
def Service.Rests (v : Service) (zone : String) (o : Options) (t : Transcript) (r : Registry)
    (base : Outcome NamedSnapshot) : Prop :=
  ∃ own further, t = own ++ further ∧ Leads (v.basis zone o) own (.done (r, base))

-- Failures to get a snapshot.
inductive Failure.OfSnapshot : Failure → Prop
  | unknown (token : Token) : OfSnapshot (.unknownSnapshot token)
  | stale (token : Token) (age limit : Int) : OfSnapshot (.stale token age limit)
  | source (reason : String) : OfSnapshot (.source reason)

-- A value that is right, or none because there is no snapshot or no time.
inductive Gets {α : Type} (right : α → Prop) : Outcome α → Prop
  | got (value : α) (holds : right value) : Gets right (.ok value)
  | refused (f : Failure) (kind : f.OfSnapshot) : Gets right (fail f)
  | late : Gets right (.error .outOfTime)

open Ledger

section

variable {v : Service} {zone : String} {o : Options} {r r' : Registry} {base base' : Outcome NamedSnapshot}
  {t : Transcript}

theorem rests_once (first : v.Rests zone o t r base) (second : v.Rests zone o t r' base') : r = r' ∧ base = base' := by
  obtain ⟨own, further, rfl, leads⟩ := first
  obtain ⟨own', further', split, leads'⟩ := second
  have same := (leads_once leads leads' split).1
  exact ⟨congrArg Prod.fst same, congrArg Prod.snd same⟩

theorem rests_append (rests : v.Rests zone o t r base) (u : Transcript) : v.Rests zone o (t ++ u) r base := by
  obtain ⟨own, further, rfl, leads⟩ := rests
  exact ⟨own, further ++ u, by simp, leads⟩

end

section

variable {Γ : Ledger} {setup : Setup} {s : NamedSnapshot}

theorem meets_hand_out (known : Γ.Knows s) (sourceError : Option String) (t : Transcript) :
    Meets (Γ.conduct setup) (fun _ out => Gets (fun served : ServedSnapshot => Γ.Knows served.named) out)
      (handOut s sourceError) t :=
  meets_act known.2 fun _ _ => meets_pure (.got _ known)

theorem meets_current_snapshot (rules : CaptureRules) (sourceName : String) (t : Transcript) :
    Meets (Γ.conduct setup) (fun _ out => Gets (fun served : ServedSnapshot => Γ.Knows served.named) out)
      (currentSnapshot rules sourceName) t := by
  refine meets_act trivial fun look vouched => ?_
  match look, vouched with
  | .fresh s, known => exact meets_hand_out known none _
  | .refreshing id none, _ =>
      refine meets_wait fun awaited vouched => ?_
      match awaited, vouched with
      | none, _ => exact .late
      | some (.report (.outcome (.ok s))), reported => exact meets_hand_out (reported.1 s rfl) none _
      | some (.report (.outcome (.error f))), reported =>
          obtain ⟨reason, rfl⟩ := reported.2 f rfl
          exact .refused _ (.source reason)
      | some (.report .died), _ => exact .refused _ (.source noResult)
      | some .late, _ => exact .refused _ (.source noResult)
  | .refreshing id (some previous), old =>
      have known := old previous rfl
      refine meets_wait fun awaited vouched => ?_
      match awaited, vouched with
      | none, _ => exact .late
      | some (.report (.outcome (.ok s))), reported => exact meets_hand_out (reported.1 s rfl) none _
      | some (.report (.outcome (.error f))), _ => exact meets_hand_out known (some f.message) _
      | some (.report .died), _ => exact meets_hand_out known (some noResult) _
      | some .late, _ => exact meets_hand_out known _ _

theorem meets_pinned_snapshot (token : Token) (t : Transcript) :
    Meets (Γ.conduct setup) (fun _ out => Gets (fun s => Γ.Knows s ∧ s.token = token) out) (pinnedSnapshot token) t := by
  refine meets_act trivial fun found vouched => ?_
  match found, vouched with
  | none, _ => exact .refused _ (.unknown token)
  | some (s, false), known => exact .got s (known s false rfl)
  | some (s, true), _ => exact meets_act trivial fun _ _ => .refused _ (.unknown token)

theorem meets_check_freshness (rules : CaptureRules) (s : NamedSnapshot) (t : Transcript) :
    Meets (Γ.conduct setup) (fun _ out => Gets (fun _ => True) out) (checkFreshness rules s) t := by
  refine meets_act trivial fun now _ => ?_
  cases old : staleAge? rules.maxAgeSeconds now s with
  | none => exact .got () trivial
  | some a =>
      refine meets_act trivial fun _ _ => ?_
      split
      · exact .refused _ (.stale s.token a.age a.limit)
      · exact .got () trivial

theorem meets_derive_snapshot (known : Γ.Knows s) (zones : List String) (overrides : Values) (t : Transcript) :
    Meets (Γ.conduct setup) (fun _ derived => Γ.Knows derived ∧ (overrides.isEmpty → derived = s))
      (deriveSnapshot s zones overrides) t := by
  unfold deriveSnapshot
  split
  · exact ⟨known, fun _ => rfl⟩
  · rename_i given
    exact meets_act rfl fun _ named => ⟨⟨named, rfl⟩, fun none => absurd none given⟩

theorem meets_base_snapshot (sourceName : String) (token : Option Token) (t : Transcript) :
    Meets (Γ.conduct setup) (fun _ out => Gets (fun s => Γ.Knows s ∧ ∀ name, token = some name → s.token = name) out)
      (baseSnapshot setup sourceName token) t := by
  cases token with
  | some name =>
      apply meets_weaken (meets_pinned_snapshot name t)
      intro _ out gets
      cases gets with
      | got s both => exact .got s ⟨both.1, fun other same => both.2.trans (Option.some.inj same)⟩
      | refused f kind => exact .refused f kind
      | late => exact .late
  | none =>
      refine meets_bind (meets_current_snapshot _ sourceName t) fun u out gets => ?_
      have given : Gets (fun s => Γ.Knows s ∧ ∀ name, (none : Option Token) = some name → s.token = name)
          (out.map (·.named)) := by
        cases gets with
        | got served known => exact .got served.named ⟨known, fun _ same => nomatch same⟩
        | refused f kind => exact .refused f kind
        | late => exact .late
      cases sourceFinding out with
      | some finding => exact meets_act trivial fun _ _ => given
      | none => exact given

theorem meets_snapshot_for (sourceName zone : String) (o : Options) (t : Transcript) :
    Meets (Γ.conduct setup)
      (fun _ out => Gets (fun s => Γ.Knows s ∧ ∀ name, o = { snapshot := some name } → s.token = name) out)
      (snapshotFor setup sourceName zone o) t := by
  refine meets_bind (meets_base_snapshot sourceName o.snapshot t) fun u base gets => ?_
  cases gets with
  | refused f kind => exact .refused f kind
  | late => exact .late
  | got s both =>
      refine meets_bind (meets_check_freshness _ s u) fun w checked passes => ?_
      cases passes with
      | refused f kind => exact .refused f kind
      | late => exact .late
      | got _ _ =>
          refine meets_bind (meets_derive_snapshot both.1 _ o.overrides w) fun _ derived known => ?_
          refine .got derived ⟨known.1, fun name plain => ?_⟩
          subst plain
          rw [known.2 rfl]
          exact both.2 name rfl

end

-- What is known of the beginning of a request.
structure Ledger.Founds (Γ : Ledger) (v : Service) (zone : String) (o : Options) (r : Registry)
    (base : Outcome NamedSnapshot) : Prop where
  served : r ∈ Γ.published
  given : isKnown v.setup.catalog r zone = true →
    Gets (fun s => Γ.Knows s ∧ ∀ name, o = { snapshot := some name } → s.token = name) base
  missing : isKnown v.setup.catalog r zone = false → base = fail (.noModel zone)

theorem meets_basis {Γ : Ledger} (v : Service) (zone : String) (o : Options) (t : Transcript) :
    Meets (Γ.conduct v.setup) (fun _ both => Γ.Founds v zone o both.1 both.2) (v.basis zone o) t := by
  refine meets_act trivial fun r served => ?_
  cases known : isKnown v.setup.catalog r zone with
  | false => exact ⟨served, fun there => absurd there (by simp [known]), fun _ => rfl⟩
  | true =>
      refine meets_bind (meets_snapshot_for v.sourceName zone o _) fun u base gets => ?_
      exact ⟨served, fun _ => gets, fun missing => absurd missing (by simp [known])⟩

section

variable {Γ : Ledger} {v : Service} {zone : String} {o : Options} {r : Registry} {s : NamedSnapshot}

theorem founds_there (founds : Γ.Founds v zone o r (.ok s)) : isKnown v.setup.catalog r zone = true := by
  cases known : isKnown v.setup.catalog r zone with
  | true => rfl
  | false => cases founds.missing known

theorem founds_known (founds : Γ.Founds v zone o r (.ok s)) : Γ.Knows s := by
  cases founds.given (founds_there founds) with
  | got _ both => exact both.1

theorem founds_pinned {token : Token} (founds : Γ.Founds v zone { snapshot := some token } r (.ok s)) :
    s.token = token := by
  cases founds.given (founds_there founds) with
  | got _ both => exact both.2 token rfl

theorem founds_refused {halt : Halt} (founds : Γ.Founds v zone o r (.error halt)) :
    halt = .outOfTime ∨ ∃ f, halt = .failed f ∧ (f.OfSnapshot ∨ f = .noModel zone) := by
  cases known : isKnown v.setup.catalog r zone with
  | true =>
      cases founds.given known with
      | refused f kind => exact .inr ⟨f, rfl, .inl kind⟩
      | late => exact .inl rfl
  | false =>
      cases founds.missing known
      exact .inr ⟨_, rfl, .inr rfl⟩

end

theorem meets_on_basis {Γ : Ledger} {v : Service} {zone : String} {o : Options} {α : Type}
    {further : Registry → NamedSnapshot → Serve (Outcome α)} {right : Registry → NamedSnapshot → Outcome α → Prop}
    (met : ∀ r s t, r ∈ Γ.published → Γ.Knows s →
      Meets (Γ.conduct v.setup) (fun _ out => right r s out) (further r s) t) :
    Meets (Γ.conduct v.setup)
      (fun u out => ∃ r base, v.Rests zone o u r base ∧ Γ.Founds v zone o r base ∧
        (∀ halt, base = .error halt → out = .error halt) ∧ ∀ s, base = .ok s → right r s out)
      (v.onBasis zone o further) [] := by
  refine meets_bind (meets_traced (meets_basis v zone o [])) fun u both begun => ?_
  obtain ⟨r, base⟩ := both
  obtain ⟨founds, own, rfl, leads⟩ := begun
  cases base with
  | error halt =>
      have rests : v.Rests zone o u r (.error halt) := ⟨u, [], by simp, leads⟩
      exact ⟨r, _, rests, founds, fun other same => (Except.error.inj same) ▸ rfl, fun s same => nomatch same⟩
  | ok s =>
      refine meets_weaken (meets_traced (met r s u founds.served (founds_known founds))) ?_
      rintro w out ⟨right', later, rfl, _⟩
      have rests : v.Rests zone o (u ++ later) r (.ok s) := ⟨u, later, rfl, leads⟩
      exact ⟨r, _, rests, founds, fun halt same => (nomatch same), fun s' same => Except.ok.inj same ▸ right'⟩

end GridLoad
