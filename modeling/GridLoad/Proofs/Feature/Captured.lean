import GridLoad.Proofs.Serving.World

set_option autoImplicit false

namespace GridLoad

open GridLoad.Time (Instant)

def RefreshPhase.outcome? : RefreshPhase → Option (Except Failure NamedSnapshot)
  | .fetching => none
  | .fetched outcome => some outcome
  | .recorded outcome => some outcome
  | .reported outcome => some outcome
  | .died => none

def Failure.OfSource (f : Failure) : Prop := ∃ reason, f = .source reason

namespace Captures

-- Every snapshot that can be handed out is known, under its own token, and a fetch fails as sources do.
structure Sound (known : NamedSnapshot → Prop) (c : Captures) : Prop where
  current : ∀ d : Dated, c.current = some d → known d.named
  pinned : ∀ (token : Token) (d : Dated), c.pins.get? token = some d → known d.named ∧ d.named.token = token
  came : ∀ (id : RefreshId) (r : Refresh) (s : NamedSnapshot), c.refreshes[id]? = some r →
    r.phase.outcome? = some (.ok s) → known s
  failed : ∀ (id : RefreshId) (r : Refresh) (f : Failure), c.refreshes[id]? = some r →
    r.phase.outcome? = some (.error f) ∨ r.answer = .failed f → f.OfSource

variable {known : NamedSnapshot → Prop} {c : Captures} {now : Instant} {id : RefreshId}

theorem sound_weaken {known' : NamedSnapshot → Prop} (sound : Sound known c) (weaker : ∀ s, known s → known' s) :
    Sound known' c where
  current d there := weaker _ (sound.current d there)
  pinned token d there := ⟨weaker _ (sound.pinned token d there).1, (sound.pinned token d there).2⟩
  came id r s there outcome := weaker _ (sound.came id r s there outcome)
  failed := sound.failed

theorem sound_start (rules : CaptureRules) : Sound known { rules := rules } where
  current _ there := by cases there
  pinned _ _ there := by cases there
  came _ _ _ there := by simp at there
  failed _ _ _ there := by simp at there

theorem pin_sound {s : NamedSnapshot} (sound : Sound known c) (named : known s) : Sound known (c.pin now s) where
  current := sound.current
  pinned token d there := by
    rcases Table.get_insert_some there with ⟨rfl, rfl⟩ | before
    · exact ⟨named, rfl⟩
    · exact sound.pinned token d before
  came := sound.came
  failed := sound.failed

theorem forget_sound (token : Token) (sound : Sound known c) : Sound known (c.forget token) where
  current := sound.current
  pinned other d there := sound.pinned other d (Table.get_filter_iff.mp there).1
  came := sound.came
  failed := sound.failed

theorem drop_expired_sound (sound : Sound known c) : Sound known (c.dropExpired now) where
  current := sound.current
  pinned other d there := sound.pinned other d (Table.get_filter_iff.mp there).1
  came := sound.came
  failed := sound.failed

theorem start_sound {since delay : Nat} {answer : Fetched} (sound : Sound known c)
    (fails : ∀ f, answer = .failed f → f.OfSource) : Sound known (c.start since delay answer).1 where
  current := sound.current
  pinned := sound.pinned
  came id r s there outcome := by
    simp only [start] at there
    by_cases old : id < c.refreshes.length
    · rw [List.getElem?_append_left old] at there
      exact sound.came id r s there outcome
    · rw [List.getElem?_append_right (Nat.le_of_not_lt old)] at there
      cases place : id - c.refreshes.length <;> simp [place] at there
      subst there
      cases outcome
  failed id r f there outcome := by
    simp only [start] at there
    by_cases old : id < c.refreshes.length
    · rw [List.getElem?_append_left old] at there
      exact sound.failed id r f there outcome
    · rw [List.getElem?_append_right (Nat.le_of_not_lt old)] at there
      cases place : id - c.refreshes.length <;> simp [place] at there
      subst there
      rcases outcome with outcome | answered
      · cases outcome
      · exact fails f answered

theorem phase_refresh {phase : RefreshPhase} {other : RefreshId} {r : Refresh}
    (there : (c.setPhase id phase).refreshes[other]? = some r) :
    ∃ old, c.refreshes[other]? = some old ∧ r.answer = old.answer ∧
      (r.phase = old.phase ∨ other = id ∧ r.phase = phase) := by
  simp only [setPhase, List.getElem?_modify] at there
  cases before : c.refreshes[other]? with
  | none => simp [before] at there
  | some old =>
      by_cases same : id = other
      · simp only [before, same, if_true, Option.map_eq_map, Option.map_some, Option.some.injEq] at there
        subst there
        exact ⟨old, rfl, rfl, .inr ⟨same.symm, rfl⟩⟩
      · simp only [before, same, if_false, Option.map_eq_map, Option.map_some, Option.some.injEq] at there
        subst there
        exact ⟨old, rfl, rfl, .inl rfl⟩

theorem set_phase_sound {phase : RefreshPhase} (sound : Sound known c)
    (came : ∀ s, phase.outcome? = some (.ok s) → known s)
    (failed : ∀ f, phase.outcome? = some (.error f) → f.OfSource) : Sound known (c.setPhase id phase) where
  current := sound.current
  pinned := sound.pinned
  came other r s there outcome := by
    obtain ⟨old, before, _, same | ⟨_, new⟩⟩ := phase_refresh there
    · exact sound.came other old s before (same ▸ outcome)
    · exact came s (new ▸ outcome)
  failed other r f there outcome := by
    obtain ⟨old, before, answer, same | ⟨_, new⟩⟩ := phase_refresh there
    · exact sound.failed other old f before (same ▸ answer ▸ outcome)
    · rcases outcome with outcome | answered
      · exact failed f (new ▸ outcome)
      · exact sound.failed other old f before (.inr (answer ▸ answered))

theorem end_fetch_sound (sound : Sound known c) (named : ∀ s, c.fetched? id = some s → known s) :
    Sound known (c.endFetch now id) := by
  unfold endFetch
  split
  · rename_i since due answer there
    cases answer with
    | snapshot s =>
        have fetched : known (.of s) := named (.of s) (by simp [fetched?, there])
        exact set_phase_sound (pin_sound sound fetched)
          (fun other outcome => by cases outcome; exact fetched) (fun _ outcome => by cases outcome)
    | failed f =>
        have ofSource := sound.failed id _ f there (.inr rfl)
        exact set_phase_sound sound (fun _ outcome => by cases outcome) (fun _ outcome => by cases outcome; exact ofSource)
    | broke => exact set_phase_sound sound (fun _ outcome => by cases outcome) (fun _ outcome => by cases outcome)
  · exact sound

theorem record_sound (sound : Sound known c) : Sound known (c.record now id) := by
  unfold record
  split
  · rename_i since due answer outcome there
    have cleared : Sound known { c with inFlight := none } :=
      ⟨sound.current, sound.pinned, sound.came, sound.failed⟩
    cases outcome with
    | ok s =>
        have came := sound.came id _ s there rfl
        have recorded : Sound known ({ c with inFlight := none }.setPhase id (.recorded (.ok s))) :=
          set_phase_sound cleared (fun _ outcome => by cases outcome; exact came) (fun _ outcome => by cases outcome)
        exact ⟨fun d there => by cases there; exact came, recorded.pinned, recorded.came, recorded.failed⟩
    | error f =>
        have failed := sound.failed id _ f there (.inl rfl)
        exact set_phase_sound cleared (fun _ outcome => by cases outcome) (fun _ outcome => by cases outcome; exact failed)
  · exact sound

theorem report_sound (sound : Sound known c) : Sound known (c.report id) := by
  unfold report
  split
  · rename_i since due answer outcome there
    exact set_phase_sound sound (fun s same => sound.came id _ s there same)
      (fun f same => sound.failed id _ f there (.inl same))
  · exact sound

theorem previous_known {s : NamedSnapshot} (sound : Sound known c) (previous : c.previous? = some s) : known s := by
  simp only [previous?, Option.map_eq_some_iff] at previous
  obtain ⟨d, there, rfl⟩ := previous
  exact sound.current d there

theorem fresh_previous {s : NamedSnapshot} (fresh : c.fresh? now = some s) : c.previous? = some s := by
  unfold fresh? at fresh
  split at fresh
  · rename_i d there
    split at fresh
    · rwa [previous?, there]
    · cases fresh
  · cases fresh

theorem fresh_known {s : NamedSnapshot} (sound : Sound known c) (fresh : c.fresh? now = some s) : known s :=
  previous_known sound (fresh_previous fresh)

theorem report_known {outcome : Except Failure NamedSnapshot} (sound : Sound known c)
    (reported : c.report? id = some (.outcome outcome)) :
    (∀ s, outcome = .ok s → known s) ∧ ∀ f, outcome = .error f → f.OfSource := by
  unfold report? at reported
  split at reported
  · rename_i since due answer came there
    cases reported
    exact ⟨fun s same => sound.came id _ s there (same ▸ rfl), fun f same => sound.failed id _ f there (.inl (same ▸ rfl))⟩
  · cases reported
  · cases reported

end Captures

end GridLoad
