import GridLoad.Proofs.Serving.Ledger

set_option autoImplicit false

namespace GridLoad

namespace Engine

structure Sound (setup : Setup) (h : History) (e : Engine) : Prop where
  cache : e.cache.Sound ((e.ledger h).Made setup)
  captures : e.captures.Sound (e.ledger h).Knows
  serving : e.publication.current ∈ h.published

-- What a step of the state comes to: nothing that was known is lost, and what follows is sound again.
structure Passes (setup : Setup) (h h' : History) (e e' : Engine) : Prop where
  grows : (e.ledger h).Grows (e'.ledger h')
  sound : e'.Sound setup h'

variable {setup : Setup} {h : History} {e : Engine}

theorem passes_refl (sound : e.Sound setup h) : Passes setup h h e e := ⟨Ledger.grows_refl, sound⟩

theorem passes_trans {h' h'' : History} {e' e'' : Engine} (first : Passes setup h h' e e')
    (second : Passes setup h' h'' e' e'') : Passes setup h h'' e e'' :=
  ⟨Ledger.grows_trans first.grows second.grows, second.sound⟩

theorem passes_cache {e' : Engine} (sound : e.Sound setup h) (captures : e'.captures = e.captures)
    (publication : e'.publication = e.publication) (kept : e.cache.KeysKept e'.cache)
    (cache : e'.cache.Sound ((e.ledger h).Made setup)) : Passes setup h h e e' := by
  have grows : (e.ledger h).Grows (e'.ledger h) := ⟨kept, List.Subset.refl _, List.Subset.refl _⟩
  refine ⟨grows, ?_, ?_, ?_⟩
  · exact Cache.sound_weaken cache fun _ _ made => Ledger.made_grows grows made
  · rw [captures]
    exact Captures.sound_weaken sound.captures fun _ known => Ledger.knows_grows grows known
  · rw [publication]
    exact sound.serving

theorem passes_captures {e' : Engine} (sound : e.Sound setup h) (cache : e'.cache = e.cache)
    (publication : e'.publication = e.publication) (captures : e'.captures.Sound (e.ledger h).Knows) :
    Passes setup h h e e' := by
  have same : e'.ledger h = e.ledger h := by simp only [ledger, cache]
  refine ⟨same ▸ Ledger.grows_refl, ?_, ?_, ?_⟩
  · rw [same, cache]
    exact sound.cache
  · rw [same]
    exact captures
  · rw [publication]
    exact sound.serving

-- Parts of the state that nothing known rests on may change as they like.
theorem passes_beside {e' : Engine} (sound : e.Sound setup h) (cache : e'.cache = e.cache)
    (captures : e'.captures = e.captures) (publication : e'.publication = e.publication) :
    Passes setup h h e e' :=
  passes_captures sound cache publication (captures ▸ sound.captures)

-- More is written down, and nothing else changes.
theorem passes_history {h' : History} (sound : e.Sound setup h) (published : h.published ⊆ h'.published)
    (named : h.named ⊆ h'.named) : Passes setup h h' e e := by
  have grows : (e.ledger h).Grows (e.ledger h') := ⟨fun _ _ found => found, published, named⟩
  exact ⟨grows, Cache.sound_weaken sound.cache fun _ _ made => Ledger.made_grows grows made,
    Captures.sound_weaken sound.captures fun _ known => Ledger.knows_grows grows known, published sound.serving⟩

theorem pin_passes {s : NamedSnapshot} (sound : e.Sound setup h) (genuine : s.token = s.snapshot.token) :
    Passes setup h { h with named := h.named ++ [s] } e { e with captures := e.captures.pin e.now s } := by
  have named : Passes setup h { h with named := h.named ++ [s] } e e :=
    passes_history sound (List.Subset.refl _) (List.subset_append_left _ _)
  refine passes_trans named (passes_captures named.sound rfl rfl (Captures.pin_sound named.sound.captures ?_))
  exact ⟨by simp [ledger], genuine⟩

theorem publish_passes {r : Registry} (sound : e.Sound setup h) :
    Passes setup h { h with published := h.published ++ [r] } e
      { e with publication := e.publication.publish r } := by
  have served : Passes setup h { h with published := h.published ++ [r] } e e :=
    passes_history sound (List.subset_append_left _ _) (List.Subset.refl _)
  exact ⟨served.grows, served.sound.cache, served.sound.captures, by simp [Publication.publish]⟩

theorem fetch_fails {files : Files} {source : Source} {f : Failure}
    (failed : (source.fetch files).2.2 = .failed f) : f.OfSource := by
  simp only [Source.fetch] at failed
  split at failed
  · cases failed
  · cases answer : source.origin.answer files with
    | ok s => simp [answer, Fetched.ofAnswer] at failed
    | error reason =>
        simp only [answer, Fetched.ofAnswer, Fetched.failed.injEq] at failed
        exact ⟨reason, failed.symm⟩

theorem join_passes (sound : e.Sound setup h) : Passes setup h h e e.joinRefresh.1 := by
  unfold joinRefresh
  split
  · exact passes_refl sound
  · exact passes_captures sound rfl rfl (Captures.start_sound sound.captures fun f failed => fetch_fails failed)

-- A look changes nothing but the source and the captures.
theorem look_apart (e : Engine) :
    ∃ source captures, (e.perform .look).1 = { e with source := source, captures := captures } := by
  unfold perform look
  dsimp only
  split
  · exact ⟨e.source, e.captures, rfl⟩
  · simp only [joinRefresh]
    split <;> exact ⟨_, _, rfl⟩

-- An attempt changes nothing but the cache and whose turn it is to reload, and giving up nothing but the cache.
theorem attempt_apart (e : Engine) (caller : Caller) (w : Wait) :
    ∃ cache reloading, (e.attempt caller w).1 = { e with cache := cache, reloading := reloading } := by
  cases w with
  | reloadTurn =>
      unfold attempt
      split <;> exact ⟨_, _, rfl⟩
  | _ => exact ⟨_, _, rfl⟩

theorem give_up_apart (e : Engine) (caller : Caller) (w : Wait) :
    ∃ cache, e.giveUp caller w = { e with cache := cache } := by
  cases w <;> exact ⟨_, rfl⟩

theorem look_passes (sound : e.Sound setup h) :
    Passes setup h h e e.look.1 ∧ (e.look.1.ledger h).Vouches setup (.act .look) e.look.2 := by
  unfold look
  split
  · rename_i s fresh
    exact ⟨passes_refl sound, Captures.fresh_known sound.captures fresh⟩
  · have joined := join_passes sound
    exact ⟨joined, fun s previous => Captures.previous_known joined.sound.captures previous⟩

theorem pinned_vouched {token : Token} (sound : e.Sound setup h) :
    (e.ledger h).Vouches setup (.act (.pinned token)) (e.perform (.pinned token)).2 := by
  intro s expired found
  simp only [perform, Option.map_eq_some_iff] at found
  obtain ⟨d, there, same⟩ := found
  have known := sound.captures.pinned token d there
  cases same
  exact known

-- One question of a request: the state stays sound and the answer is vouched for.
theorem perform_passes {a : Act} {t : Transcript} (sound : e.Sound setup h)
    (allowed : (e.ledger h).Allows setup t (.act a)) :
    Passes setup h (h.after ⟨.act a, (e.perform a).2⟩) e (e.perform a).1 ∧
      ((e.perform a).1.ledger (h.after ⟨.act a, (e.perform a).2⟩)).Vouches setup (.act a) (e.perform a).2 := by
  cases a with
  | registry => exact ⟨passes_refl sound, sound.serving⟩
  | slot key =>
      exact ⟨passes_cache sound rfl rfl (Cache.slot_for_keys key) (Cache.slot_for_sound sound.cache),
        Cache.slot_for_found sound.cache⟩
  | leave id computed =>
      exact ⟨passes_cache sound rfl rfl (Cache.leave_keys computed) (Cache.leave_sound sound.cache allowed), trivial⟩
  | lastComputed => exact ⟨passes_refl sound, trivial⟩
  | look => exact look_passes sound
  | pin s => exact ⟨pin_passes sound allowed, List.mem_append_right _ (List.mem_singleton_self s)⟩
  | pinned token => exact ⟨passes_refl sound, pinned_vouched sound⟩
  | forget token =>
      exact ⟨passes_captures sound rfl rfl (Captures.forget_sound token sound.captures), trivial⟩
  | wallTime => exact ⟨passes_refl sound, trivial⟩
  | note => exact ⟨passes_beside sound rfl rfl rfl, trivial⟩
  | count => exact ⟨passes_beside sound rfl rfl rfl, trivial⟩
  | find => exact ⟨passes_beside sound rfl rfl rfl, trivial⟩
  | health => exact ⟨passes_refl sound, trivial⟩
  | endReload => exact ⟨passes_beside sound rfl rfl rfl, trivial⟩
  | generation => exact ⟨⟨Ledger.grows_refl, sound.cache, sound.captures, sound.serving⟩, trivial⟩
  | publish r => exact ⟨publish_passes sound, trivial⟩
  | retain generation =>
      exact ⟨passes_cache sound rfl rfl (fun _ _ found => found) (Cache.retain_sound generation sound.cache), trivial⟩
  | gauge => exact ⟨passes_beside sound rfl rfl rfl, trivial⟩
  | purgeCache =>
      exact ⟨passes_cache sound rfl rfl (fun _ _ found => found) (Cache.purge_sound sound.cache), trivial⟩
  | pinCount => exact ⟨passes_refl sound, trivial⟩
  | dropPins => exact ⟨passes_captures sound rfl rfl (Captures.drop_expired_sound sound.captures), trivial⟩
  | series => exact ⟨passes_refl sound, trivial⟩

theorem enter_attempted {caller : Caller} {id : SlotId} {entered : Entered}
    (given : (e.attempt caller (.enter id)).2 = some entered) :
    (∃ p, entered = .found p ∧ (e.cache.enter e.now caller id).2 = .found p) ∨ entered = .granted := by
  simp only [attempt] at given
  split at given
  · cases given
  · rename_i p found
    exact .inl ⟨p, (Option.some.inj given).symm, found⟩
  · exact .inr (Option.some.inj given).symm

theorem directory_generation {files : Files} {root : Path} {generation : Nat} {r : Registry}
    (read : Registry.ofDirectory files root generation = .ok r) : r.generation = generation := by
  unfold Registry.ofDirectory at read
  split at read
  · cases read
  · cases read
    rfl

theorem attempt_passes (caller : Caller) (wait : Wait) (sound : e.Sound setup h) :
    Passes setup h h e (e.attempt caller wait).1 := by
  cases wait with
  | enter id => exact passes_cache sound rfl rfl Cache.enter_keys (Cache.enter_sound sound.cache)
  | refreshed => exact passes_refl sound
  | reloadTurn =>
      simp only [attempt]
      split
      · exact passes_beside sound rfl rfl rfl
      · exact passes_refl sound
  | models => exact passes_refl sound

theorem attempt_vouched {caller : Caller} {wait : Wait} {answer : wait.Answer} (sound : e.Sound setup h)
    (given : (e.attempt caller wait).2 = some answer) :
    ((e.attempt caller wait).1.ledger h).Vouches setup (.wait wait) (some answer) := by
  cases wait with
  | enter id =>
      rcases enter_attempted given with ⟨p, rfl, found⟩ | rfl
      · obtain ⟨key, there, made⟩ := Cache.enter_found sound.cache found
        have passes := attempt_passes caller (.enter id) sound
        exact ⟨key, passes.grows.key? id key there, Ledger.made_grows passes.grows made⟩
      · trivial
  | refreshed id patience =>
      simp only [attempt, Option.map_eq_some_iff] at given
      obtain ⟨report, there, rfl⟩ := given
      cases report with
      | outcome outcome => exact Captures.report_known sound.captures there
      | died => trivial
  | reloadTurn => trivial
  | models root generation =>
      cases answer with
      | error reason => trivial
      | ok r => exact directory_generation (Option.some.inj given)

theorem give_up_passes (caller : Caller) (wait : Wait) (sound : e.Sound setup h) :
    Passes setup h h e (e.giveUp caller wait) := by
  cases wait with
  | enter id => exact passes_cache sound rfl rfl Cache.withdraw_keys (Cache.withdraw_sound sound.cache)
  | refreshed => exact passes_refl sound
  | reloadTurn => exact passes_refl sound
  | models => exact passes_refl sound

theorem abandon_passes (caller : Caller) (sound : e.Sound setup h) : Passes setup h h e (e.abandon caller) :=
  passes_cache sound rfl rfl (fun _ _ found => Cache.abandon_key.trans found) (Cache.abandon_sound sound.cache)

theorem end_fetch_passes (id : RefreshId) (sound : e.Sound setup h) :
    Passes setup h { h with named := h.named ++ (e.captures.fetched? id).toList } e
      { e with captures := e.captures.endFetch e.now id } := by
  have named : Passes setup h { h with named := h.named ++ (e.captures.fetched? id).toList } e e :=
    passes_history sound (List.Subset.refl _) (List.subset_append_left _ _)
  refine passes_trans named (passes_captures named.sound rfl rfl (Captures.end_fetch_sound named.sound.captures ?_))
  intro s fetched
  have genuine : s = .of s.snapshot := by
    unfold Captures.fetched? at fetched
    split at fetched <;> cases fetched
    rfl
  exact ⟨by simp [ledger, fetched], congrArg NamedSnapshot.token genuine⟩

theorem record_passes (id : RefreshId) (sound : e.Sound setup h) :
    Passes setup h h e { e with captures := e.captures.record e.now id } :=
  passes_captures sound rfl rfl (Captures.record_sound sound.captures)

theorem report_passes (id : RefreshId) (sound : e.Sound setup h) :
    Passes setup h h e { e with captures := e.captures.report id } :=
  passes_captures sound rfl rfl (Captures.report_sound sound.captures)

end Engine

end GridLoad
