import GridLoad.Proofs.Zone.Loading
import GridLoad.Zone.Watch

/-!
What a watcher signals. Between one quiet and the next it collects the model files that changed, so its signals name
those and nothing else, each once for every stretch in which it changed; and every file that a zone is read from is
a model file.
-/

set_option autoImplicit false

namespace GridLoad

section

variable {α : Type} [BEq α] {l : List α}

theorem nodup_distinct [LawfulBEq α] : (l : List α) → l.eraseDups.Nodup
  | [] => List.nodup_nil
  | first :: rest => by
      rw [List.eraseDups_cons, List.nodup_cons, List.mem_eraseDups]
      exact ⟨by simp, nodup_distinct _⟩
termination_by l => l.length
decreasing_by exact Nat.lt_succ_of_le (List.length_filter_le _ _)

theorem distinct_nil : l.eraseDups = [] ↔ l = [] := by
  cases l with
  | nil => exact Iff.rfl
  | cons first rest =>
      rw [List.eraseDups_cons]
      exact iff_of_false nofun nofun

end

-- Model files that a notice tells of, in order.
def Notice.told : Notice → List ChangedPath
  | .change kind paths => if kind.isRelevant then paths.filter (·.isModelFile) else []
  | .quiet => []
  | .deserted => []
  | .closed => []

namespace Watcher

def told (notices : List Notice) : List ChangedPath := notices.flatMap Notice.told

-- What is noticed between one quiet and the next, until the watcher is closed. The last stretch has not come to a quiet.
def stretches (notices : List Notice) : List (List Notice) := (notices.takeWhile (· ≠ .closed)).splitOn .quiet

variable {w : Watcher} {since : List ChangedPath} {notices before during : List Notice} {n : Notice}

theorem collect_distinct (since : List ChangedPath) (p : ChangedPath) :
    collect since.eraseDups p = (since ++ [p].filter (·.isModelFile)).eraseDups := by
  unfold collect
  rw [List.eraseDups_append]
  by_cases accepted : p.isModelFile
  · by_cases known : p ∈ since <;> simp [accepted, known, List.removeAll, List.eraseDups_cons]
  · simp [accepted, List.removeAll]

theorem collect_all_distinct (since paths : List ChangedPath) :
    paths.foldl collect since.eraseDups = (since ++ paths.filter (·.isModelFile)).eraseDups := by
  induction paths generalizing since with
  | nil => simp
  | cons p rest ih =>
      rw [List.foldl_cons, collect_distinct, ih, List.append_assoc, ← List.filter_append, List.singleton_append]

-- A watcher that goes on and is heard, and has collected what it was told of since some time.
structure Collects (w : Watcher) (since : List ChangedPath) : Prop where
  isOpen : w.isOpen = true
  isHeard : w.isHeard = true
  pending : w.pending = since.eraseDups

theorem collects_first : Collects {} [] := ⟨rfl, rfl, rfl⟩

theorem step_ended (ended : w.isOpen = false) : w.step n = w := by
  simp only [step, ended, Bool.not_false, if_true]

theorem steps_ended (ended : w.isOpen = false) : notices.foldl step w = w := by
  induction notices with
  | nil => rfl
  | cons n rest ih => rw [List.foldl_cons, step_ended ended, ih]

theorem step_open (isOpen : w.isOpen = true) : w.step n =
    match n with
    | .change kind paths => if kind.isRelevant then { w with pending := paths.foldl collect w.pending } else w
    | .quiet => w.signal
    | .deserted => { w with isHeard := false }
    | .closed => { w with isOpen := false } := by
  unfold step
  rw [isOpen]
  rfl

theorem step_change (collects : w.Collects since) (kind : ChangeKind) (paths : List ChangedPath) :
    w.step (.change kind paths) = { w with pending := (since ++ (Notice.change kind paths).told).eraseDups } := by
  rw [step_open collects.isOpen]
  unfold Notice.told
  dsimp only
  split
  · rw [collects.pending, collect_all_distinct]
  · rw [List.append_nil, ← collects.pending]

theorem change_collects (collects : w.Collects since) (kind : ChangeKind) (paths : List ChangedPath) :
    (w.step (.change kind paths)).Collects (since ++ (Notice.change kind paths).told) := by
  rw [step_change collects]
  exact ⟨collects.isOpen, collects.isHeard, rfl⟩

-- A quiet that nothing was told before gives no signal and leaves all as it is.
theorem step_quiet (collects : w.Collects since) : w.step .quiet =
    { w with pending := [], signals := w.signals ++ [since.eraseDups].filter (· ≠ []) } := by
  have pending := collects.pending
  rw [step_open collects.isOpen]
  dsimp only
  unfold signal
  by_cases nothing : since.eraseDups = []
  · rw [nothing] at pending ⊢
    obtain ⟨_, signals, _, _⟩ := w
    subst pending
    simp
  · rw [pending, collects.isHeard, if_neg (by simpa using nothing), if_pos rfl]
    simp [nothing]

theorem quiet_collects (collects : w.Collects since) : (w.step .quiet).Collects [] := by
  rw [step_quiet collects]
  exact ⟨collects.isOpen, collects.isHeard, rfl⟩

theorem stretches_some (notices : List Notice) : stretches notices ≠ [] := List.splitOnP_ne_nil _ _

theorem stretches_quiet (rest : List Notice) : stretches (.quiet :: rest) = [] :: stretches rest := by
  unfold stretches List.splitOn
  rw [List.takeWhile_cons_of_pos (by decide), List.splitOnP_cons_eq_if_modifyHead]
  rfl

theorem stretches_change (kind : ChangeKind) (paths : List ChangedPath) (rest : List Notice) :
    stretches (.change kind paths :: rest) = (stretches rest).modifyHead (.change kind paths :: ·) := by
  unfold stretches List.splitOn
  rw [List.takeWhile_cons_of_pos (by simp), List.splitOnP_cons_eq_if_modifyHead]
  exact if_neg (by simp)

-- What is told in each stretch, where some of the first was told before.
def toldFrom (since : List ChangedPath) (notices : List Notice) : List (List ChangedPath) :=
  ((stretches notices).map told).modifyHead (since ++ ·)

theorem told_from_quiet (since : List ChangedPath) (rest : List Notice) :
    toldFrom since (.quiet :: rest) = since :: toldFrom [] rest := by
  obtain ⟨first, others, split⟩ := List.exists_cons_of_ne_nil (stretches_some rest)
  simp [toldFrom, stretches_quiet, split, told]

theorem told_from_change (since : List ChangedPath) (kind : ChangeKind) (paths : List ChangedPath) (rest : List Notice) :
    toldFrom since (.change kind paths :: rest) = toldFrom (since ++ (Notice.change kind paths).told) rest := by
  obtain ⟨first, others, split⟩ := List.exists_cons_of_ne_nil (stretches_some rest)
  simp [toldFrom, stretches_change, split, told]

-- The signals of what is told in stretches of which the last is not over.
def signalsOf (stretches : List (List ChangedPath)) : List (List ChangedPath) :=
  (stretches.dropLast.map List.eraseDups).filter (· ≠ [])

theorem signals_cons {first : List ChangedPath} {rest : List (List ChangedPath)} (further : rest ≠ []) :
    signalsOf (first :: rest) = [first.eraseDups].filter (· ≠ []) ++ signalsOf rest := by
  unfold signalsOf
  rw [List.dropLast_cons_of_ne_nil further, List.map_cons, ← List.filter_append, List.singleton_append]

theorem told_from_some (since : List ChangedPath) (notices : List Notice) : toldFrom since notices ≠ [] := by
  obtain ⟨first, others, split⟩ := List.exists_cons_of_ne_nil (stretches_some notices)
  simp [toldFrom, split]

-- From wherever a watcher stands, one stretch after another adds the signal of what it was told.
theorem steps_signal (collects : w.Collects since) (heard : .deserted ∉ notices) :
    (notices.foldl step w).signals = w.signals ++ signalsOf (toldFrom since notices) := by
  induction notices generalizing w since with
  | nil => exact (List.append_nil _).symm
  | cons n rest ih =>
      obtain ⟨_, later⟩ := not_or.mp (List.mem_cons.not.mp heard)
      rw [List.foldl_cons]
      cases n with
      | change kind paths =>
          rw [ih (change_collects collects kind paths) later, told_from_change, step_change collects]
      | quiet =>
          rw [ih (quiet_collects collects) later, told_from_quiet, signals_cons (told_from_some _ _),
            step_quiet collects, List.append_assoc]
      | deserted => exact absurd List.mem_cons_self heard
      | closed =>
          have ended : w.step .closed = { w with isOpen := false } := step_open collects.isOpen
          rw [ended, steps_ended rfl]
          exact (List.append_nil _).symm

theorem run_signals (heard : .deserted ∉ notices) : (run notices).signals =
    ((stretches notices).dropLast.map fun stretch => (told stretch).eraseDups).filter (· ≠ []) := by
  have signals := steps_signal collects_first heard
  have whole : toldFrom [] notices = (stretches notices).map told := by
    obtain ⟨first, others, split⟩ := List.exists_cons_of_ne_nil (stretches_some notices)
    simp [toldFrom, split]
  rw [whole, signalsOf, ← List.map_dropLast, List.map_map] at signals
  exact signals

-- A path that is pending or named.
def Has (w : Watcher) (p : ChangedPath) : Prop := p ∈ w.named ∨ p ∈ w.pending

-- A change makes the watcher have what it is told, and a quiet turns what is pending into what is named.
theorem step_has (collects : w.Collects since) (n : Notice) (p : ChangedPath) :
    (w.step n).Has p ↔ w.Has p ∨ p ∈ n.told := by
  cases n with
  | change kind paths =>
      rw [step_change collects]
      simp only [Has, named, collects.pending, List.mem_eraseDups, List.mem_append, or_assoc]
  | quiet =>
      rw [step_quiet collects]
      by_cases nothing : since.eraseDups = []
      · simp [Has, named, Notice.told, collects.pending, nothing]
      · simp [Has, named, Notice.told, collects.pending, nothing]
  | deserted =>
      rw [step_open collects.isOpen]
      simp [Has, named, Notice.told]
  | closed =>
      rw [step_open collects.isOpen]
      simp [Has, named, Notice.told]

theorem step_collects (collects : w.Collects since) (unclosed : n ≠ .closed) (heard : n ≠ .deserted) :
    ∃ since', (w.step n).Collects since' := by
  cases n with
  | change kind paths => exact ⟨_, change_collects collects kind paths⟩
  | quiet => exact ⟨_, quiet_collects collects⟩
  | deserted => exact absurd rfl heard
  | closed => exact absurd rfl unclosed

theorem steps_has (collects : w.Collects since) (unclosed : .closed ∉ notices) (heard : .deserted ∉ notices) :
    (∃ since', (notices.foldl step w).Collects since') ∧
      ∀ p, (notices.foldl step w).Has p ↔ w.Has p ∨ p ∈ told notices := by
  induction notices generalizing w since with
  | nil => exact ⟨⟨since, collects⟩, fun p => by simp [told]⟩
  | cons n rest ih =>
      obtain ⟨unclosed_here, unclosed_later⟩ := not_or.mp (List.mem_cons.not.mp unclosed)
      obtain ⟨heard_here, heard_later⟩ := not_or.mp (List.mem_cons.not.mp heard)
      obtain ⟨_, further⟩ := step_collects collects (Ne.symm unclosed_here) (Ne.symm heard_here)
      obtain ⟨collecting, has⟩ := ih further unclosed_later heard_later
      refine ⟨collecting, fun p => ?_⟩
      rw [List.foldl_cons, has, step_has collects, or_assoc]
      simp [told]

-- As long as no signal is given, all that is told is collected.
theorem steps_unsignalled (collects : w.Collects since) (unclosed : .closed ∉ notices) (heard : .deserted ∉ notices)
    (unsignalled : (notices.foldl step w).signals = w.signals) :
    (notices.foldl step w).Collects (since ++ told notices) := by
  induction notices generalizing w since with
  | nil => simpa [told] using collects
  | cons n rest ih =>
      obtain ⟨unclosed_here, unclosed_later⟩ := not_or.mp (List.mem_cons.not.mp unclosed)
      obtain ⟨heard_here, heard_later⟩ := not_or.mp (List.mem_cons.not.mp heard)
      rw [List.foldl_cons] at unsignalled ⊢
      cases n with
      | change kind paths =>
          have same : (w.step (.change kind paths)).signals = w.signals := by rw [step_change collects]
          have further := ih (change_collects collects kind paths) unclosed_later heard_later (unsignalled.trans same.symm)
          simpa [told] using further
      | quiet =>
          have signals := steps_signal (quiet_collects collects) heard_later
          rw [unsignalled, step_quiet collects, List.append_assoc, List.self_eq_append_right, List.append_eq_nil_iff] at signals
          have nothing : since = [] := by
            by_contra something
            simp [distinct_nil, something] at signals
          have same : (w.step .quiet).signals = w.signals := by simp [step_quiet collects, nothing]
          have further := ih (quiet_collects collects) unclosed_later heard_later (unsignalled.trans same.symm)
          simpa [told, Notice.told, nothing] using further
      | deserted => exact absurd rfl heard_here
      | closed => exact absurd rfl unclosed_here

theorem run_collects (unclosed : .closed ∉ notices) (heard : .deserted ∉ notices) :
    (∃ since, (run notices).Collects since) ∧ ∀ p, (run notices).Has p ↔ p ∈ told notices := by
  obtain ⟨collecting, has⟩ := steps_has collects_first unclosed heard
  refine ⟨collecting, fun p => (has p).trans (or_iff_right ?_)⟩
  rintro (none | none) <;> cases none

theorem run_snoc (notices : List Notice) (n : Notice) : run (notices ++ [n]) = (run notices).step n := by
  rw [run, List.foldl_append]
  rfl

theorem run_after_quiet (unclosed : .closed ∉ before) (heard : .deserted ∉ before)
    (settled : before = [] ∨ ∃ earlier, before = earlier ++ [.quiet]) : (run before).Collects [] := by
  rcases settled with rfl | ⟨earlier, rfl⟩
  · exact collects_first
  · rw [List.mem_append, not_or] at unclosed heard
    obtain ⟨⟨since, collects⟩, _⟩ := run_collects unclosed.1 heard.1
    rw [run_snoc]
    exact quiet_collects collects

theorem collect_unconcerned {paths pending : List ChangedPath} (others : ∀ p ∈ paths, p.isModelFile = false) :
    paths.foldl collect pending = pending := by
  induction paths with
  | nil => rfl
  | cons p rest ih =>
      obtain ⟨other, others⟩ := List.forall_mem_cons.mp others
      have kept : collect pending p = pending := by simp [collect, other]
      rw [List.foldl_cons, kept, ih others]

theorem step_unconcerned {kind : ChangeKind} {paths : List ChangedPath}
    (unconcerned : kind.isRelevant = false ∨ ∀ p ∈ paths, p.isModelFile = false) :
    w.step (.change kind paths) = w := by
  cases isOpen : w.isOpen with
  | false => exact step_ended isOpen
  | true =>
      rw [step_open isOpen]
      dsimp only
      split
      · rename_i relevant
        have others := unconcerned.resolve_left (by simp [relevant])
        rw [collect_unconcerned others]
      · rfl

end Watcher

-- The path of what is in a folder ends with its name.
theorem child_changed (place : Path) {name : String} (proper : name ≠ "" ∧ name ≠ "." ∧ name ≠ "..") :
    (place.child name).changed.fileName? = some name := by
  obtain ⟨steps, child⟩ : ∃ steps, place.child name = { place with steps := steps ++ [name] } := by
    unfold Path.child
    split <;> exact ⟨_, rfl⟩
  rw [child]
  simp [Path.changed, ChangedPath.fileName?, FileName.text?, proper]

theorem zone_files_watched (place : Path) : ∀ name ∈ zoneFiles, (place.child name).changed.isModelFile = true := by
  have named : ∀ name ∈ zoneFiles, (name ≠ "" ∧ name ≠ "." ∧ name ≠ "..") ∧ isModelFile name = true := by
    decide +kernel
  intro name member
  obtain ⟨proper, accepted⟩ := named name member
  rw [ChangedPath.isModelFile, child_changed place proper]
  exact accepted

open Watcher

/-- As long as somebody receives its signals, a watcher signals just this: at each quiet the model files that were told to
have been created, modified or removed since the quiet before, each once, in the order in which they were first told,
and nothing if there are none. What a zone is read from are model files, and what it holds changes with no other. -/
theorem nothing_lost_or_invented (notices : List Notice) (heard : .deserted ∉ notices) :
    (run notices).signals =
      ((stretches notices).dropLast.map fun stretch => (told stretch).eraseDups).filter (· ≠ []) ∧
    (∀ signal ∈ (run notices).signals, signal ≠ [] ∧ signal.Nodup) ∧
    (∀ before during after, notices = before ++ during ++ .quiet :: after → .closed ∉ before ++ during →
      (before = [] ∨ ∃ earlier, before = earlier ++ [.quiet]) →
      (run (before ++ during)).signals = (run before).signals → told during ≠ [] →
      (run (before ++ during ++ [.quiet])).signals = (run before).signals ++ [(told during).eraseDups]) ∧
    (∀ before after, notices = before ++ .quiet :: after → .closed ∉ before →
      ∀ p, p ∈ (run (before ++ [.quiet])).named ↔ p ∈ told before) ∧
    (∀ before kind paths after, notices = before ++ .change kind paths :: after →
      (kind.isRelevant = false ∨ ∀ p ∈ paths, p.isModelFile = false) → run notices = run (before ++ after)) ∧
    (∀ place : Path, ∀ name ∈ zoneFiles, (place.child name).changed.isModelFile = true) ∧
    ∀ f g : Folder, f.place = g.place →
      (∀ name, (f.place.child name).changed.isModelFile = true → f.file? name = g.file? name) →
      zoneManifest f = zoneManifest g ∧ ∀ zone v, variantHolding f zone v = variantHolding g zone v := by
  have signals := run_signals heard
  refine ⟨signals, fun signal given => ?_, ?_, ?_, ?_, zone_files_watched, fun f g place files => ?_⟩
  · rw [signals, List.mem_filter, List.mem_map] at given
    obtain ⟨⟨stretch, _, rfl⟩, something⟩ := given
    exact ⟨of_decide_eq_true something, nodup_distinct _⟩
  · rintro before during after rfl unclosed settled unsignalled something
    simp only [List.mem_append, List.mem_cons, not_or] at unclosed heard
    have start := run_after_quiet unclosed.1 heard.1.1 settled
    have split : run (before ++ during) = during.foldl step (run before) := List.foldl_append
    rw [split] at unsignalled
    have collects := steps_unsignalled start unclosed.2 heard.1.2 unsignalled
    rw [List.nil_append] at collects
    rw [run_snoc, split, step_quiet collects, unsignalled]
    simp [distinct_nil, something]
  · rintro before after rfl unclosed p
    simp only [List.mem_append, List.mem_cons, not_or] at heard
    obtain ⟨⟨since, collects⟩, has⟩ := run_collects unclosed heard.1
    have pending := (quiet_collects collects).pending
    have kept := step_has collects .quiet p
    rw [has p, Has, pending] at kept
    rw [run_snoc]
    simpa [Notice.told] using kept
  · rintro before kind paths after rfl unconcerned
    simp only [run, List.foldl_append, List.foldl_cons, step_unconcerned unconcerned]
  · have same : f.SameFiles zoneFiles g :=
      ⟨place, fun name member => files name (zone_files_watched f.place name member)⟩
    exact ⟨zone_manifest_same same, fun zone v => variant_holding_same (same.of_subset (variant_files_subset v))⟩

namespace Sample

def inZone (name : String) : ChangedPath := ⟨"models", [.text "SCE", .text name]⟩

-- A redeploy of an artifact with its metadata, a file that is none of the models, and a manifest that is taken away later.
def redeploy : List Notice :=
  [.change .created [inZone "enhanced_model_current.meta.json", inZone "notes.txt"],
    .change .modified [inZone "enhanced_model_current.json"],
    .change .modified [inZone "enhanced_model_current.meta.json"], .change .accessed [inZone "zone.json"], .quiet,
    .quiet, .change .removed [inZone "zone.json"], .quiet, .change .removed [inZone "enhanced_model_current.json"],
    .closed, .quiet]

theorem redeploy_signalled : .deserted ∉ redeploy ∧
    (Watcher.run redeploy).signals =
      [[inZone "enhanced_model_current.meta.json", inZone "enhanced_model_current.json"], [inZone "zone.json"]] := by
  have heard : .deserted ∉ redeploy := by decide
  obtain ⟨signals, _⟩ := nothing_lost_or_invented redeploy heard
  rw [signals]
  exact ⟨heard, by decide +kernel⟩

end Sample

end GridLoad
