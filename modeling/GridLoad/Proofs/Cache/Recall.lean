import Mathlib.Algebra.Ring.Nat
import GridLoad.Proofs.Cache.Uses
import GridLoad.Proofs.Program.Latest

/-!
What a cache amounts to for those who use it in turn: a memory of the value that was computed last for each key, and
of the instant. Where slots are made, emptied or purged on the way cannot be told from the answers.
-/

set_option autoImplicit false

namespace GridLoad

open GridLoad.Time (Instant Span Timestamp)

abbrev CacheLog := List (CacheUse × CacheAnswer)

namespace Calls

def play : List CacheUse → Calls → Calls × CacheLog
  | [], s => (s, [])
  | u :: rest, s =>
      let (s, answer) := s.use u
      let (s, log) := play rest s
      (s, (u, answer) :: log)

end Calls

-- What a fresh cache answers, use by use.
def CacheLimits.history (limits : CacheLimits) (uses : List CacheUse) : CacheLog :=
  (Calls.play uses { cache := { limits := limits } }).2

-- The cache after these uses.
def CacheLimits.used (limits : CacheLimits) (uses : List CacheUse) : Cache :=
  (Calls.play uses { cache := { limits := limits } }).1.cache

-- The clock is never put back.
def Timely (uses : List CacheUse) : Prop := (uses.flatMap CacheUse.readings).Pairwise (· ≤ ·)

structure Memory where
  -- The value that was computed last, and when.
  stored : Key → Option (Prediction × Instant) := fun _ => none
  -- When the last value of a zone was computed.
  dates : String → Option Timestamp := fun _ => none

namespace Memory

def serves (lifetime : Span) (now : Instant) (key : Key) (m : Memory) : Option Prediction :=
  (m.stored key).bind fun e => (Content.ready e.1 (e.2 + lifetime.nanos)).value? now

def answer (lifetime : Span) (m : Memory) : CacheUse → CacheAnswer
  | .call key _ looks _ outcome =>
      match m.serves lifetime looks key with
      | some p => .called (some (.ok ⟨p, true⟩)) false
      | none => .called (some (outcome.map fun p => ⟨p, false⟩)) true
  | .peek key now => .peeked (m.serves lifetime now key)
  | .state key now => .told (if (m.serves lifetime now key).isSome then .ready else .empty)
  | .lastComputed zone => .dated (m.dates zone)
  | _ => .done

def after (m : Memory) : CacheUse × CacheAnswer → Memory
  | (.call key _ _ ends (.ok p), .called _ true) =>
      { stored := fun k => if k = key then some (p, ends) else m.stored k
        dates := fun zone => if zone = key.zone then some p.generatedAt else m.dates zone }
  | (.retain generation, _) =>
      { m with stored := fun k => if k.generation = generation then m.stored k else none }
  | (.clear, _) => { m with stored := fun _ => none }
  | _ => m

def log (lifetime : Span) : List CacheUse → Memory → CacheLog
  | [], _ => []
  | u :: rest, m => (u, m.answer lifetime u) :: log lifetime rest (m.after (u, m.answer lifetime u))

variable {lifetime : Span} {m : Memory} {c : Cache} {past : List Instant}

theorem log_append (uses more : List CacheUse) :
    log lifetime (uses ++ more) m = log lifetime uses m ++ log lifetime more ((log lifetime uses m).foldl after m) := by
  induction uses generalizing m with
  | nil => rfl
  | cons u rest ih => simp [log, ih]

theorem log_uses (uses : List CacheUse) : (log lifetime uses m).map Prod.fst = uses := by
  induction uses generalizing m with
  | nil => rfl
  | cons u rest ih => simp [log, ih]

theorem log_split {uses : List CacheUse} {before later : CacheLog} {u : CacheUse} {given : CacheAnswer}
    (split : log lifetime uses m = before ++ (u, given) :: later) : given = (before.foldl after m).answer lifetime u := by
  induction before generalizing uses m with
  | nil =>
      cases uses with
      | nil => cases split
      | cons u' rest =>
          cases split
          rfl
  | cons e before ih =>
      cases uses with
      | nil => cases split
      | cons u' rest =>
          simp only [log, List.cons_append, List.cons.injEq] at split
          obtain ⟨rfl, further⟩ := split
          exact ih further

-- From the last of these readings on, the cache serves what the memory holds.
structure Stands (lifetime : Span) (past : List Instant) (m : Memory) (c : Cache) : Prop where
  quiet : c.Quiet
  life : c.limits.lifetime = lifetime
  held : ∀ later, (∀ t ∈ past, t ≤ later) → ∀ key, c.held later key = m.serves lifetime later key
  dates : ∀ zone, c.lastComputed? zone = m.dates zone

theorem stands_fresh (limits : CacheLimits) : Stands limits.lifetime [] {} { limits := limits } where
  quiet := Cache.quiet_fresh limits
  life := rfl
  held _ _ _ := rfl
  dates _ := rfl

end Memory

def CacheAnswer.computed : CacheAnswer → Bool
  | .called _ computed => computed
  | _ => false

def CacheAnswer.hits : CacheAnswer → Nat
  | .called _ false => 1
  | _ => 0

def CacheAnswer.misses (answer : CacheAnswer) : Nat := if answer.computed then 1 else 0

namespace Memory

variable {lifetime : Span} {m : Memory} {s : Calls} {past : List Instant}

theorem serves_later {now later : Instant} {key : Key} (nothing : m.serves lifetime now key = none)
    (order : now ≤ later) : m.serves lifetime later key = none := by
  unfold serves at nothing ⊢
  cases stored : m.stored key with
  | none => rfl
  | some e =>
      rw [stored] at nothing
      have past : (Content.ready e.1 (e.2 + lifetime.nanos)).value? now = none := nothing
      exact Content.value_later past order

-- What one use answers and leaves behind.
structure Matches (lifetime : Span) (past : List Instant) (u : CacheUse) (m : Memory) (s : Calls) : Prop where
  answer : (s.use u).2 = m.answer lifetime u
  stands : Stands lifetime (past ++ u.readings) (m.after (u, m.answer lifetime u)) (s.use u).1.cache
  sequel : s.cache.Sequel (s.use u).1.cache (m.answer lifetime u).hits (m.answer lifetime u).misses

theorem call_matches (stands : Stands lifetime past m s.cache) {key : Key} {arrives looks ends : Instant}
    {outcome : Except Failure Prediction}
    (timely : (past ++ (CacheUse.call key arrives looks ends outcome).readings).Pairwise (· ≤ ·)) :
    Matches lifetime past (.call key arrives looks ends outcome) m s := by
  obtain ⟨_, inner, since⟩ := List.pairwise_append.mp timely
  have order : arrives ≤ looks := (List.pairwise_cons.mp inner).1 looks (by simp)
  have looked := stands.held looks (fun t member => since t member looks (by simp [CacheUse.readings])) key
  have onward : ∀ later, (∀ t ∈ past ++ [arrives, looks, ends], t ≤ later) →
      (∀ t ∈ past, t ≤ later) ∧ arrives ≤ later ∧ looks ≤ later := fun later after =>
    ⟨fun t member => after t (by simp [member]), after arrives (by simp), after looks (by simp)⟩
  cases held : s.cache.held looks key with
  | some p =>
      obtain ⟨answer, sequel, same, dates⟩ := Calls.use_holding ends outcome stands.quiet order held
      have told : m.answer lifetime (.call key arrives looks ends outcome) = .called (some (.ok ⟨p, true⟩)) false := by
        simp only [Memory.answer, ← looked, held]
      have unchanged : m.after (.call key arrives looks ends outcome, .called (some (.ok ⟨p, true⟩)) false) = m := by
        cases outcome <;> rfl
      refine ⟨answer.trans told.symm, ?_, by rw [told]; exact sequel⟩
      rw [told, unchanged]
      refine ⟨sequel.quiet, (congrArg CacheLimits.lifetime sequel.limits).trans stands.life, fun later after other => ?_,
        fun zone => (congrArg (·.get? zone) dates).trans (stands.dates zone)⟩
      obtain ⟨past, arrived, _⟩ := onward later after
      exact (same later arrived other).trans (stands.held later past other)
  | none =>
      obtain ⟨answer, sequel, changed, dates⟩ :=
        Calls.use_computing ends outcome stands.quiet order held
      have told : m.answer lifetime (.call key arrives looks ends outcome) =
          .called (some (outcome.map fun p => ⟨p, false⟩)) true := by
        simp only [Memory.answer, ← looked, held]
      refine ⟨answer.trans told.symm, ?_, by rw [told]; exact sequel⟩
      rw [told]
      refine ⟨sequel.quiet, (congrArg CacheLimits.lifetime sequel.limits).trans stands.life, fun later after other => ?_,
        fun zone => ?_⟩
      · obtain ⟨past, arrived, entered⟩ := onward later after
        rw [changed later arrived other, stands.held later past other, stands.life]
        cases outcome with
        | ok p =>
            by_cases same : other = key
            · simp [Memory.after, Memory.serves, same, Except.toOption]
            · simp [Memory.after, Memory.serves, same]
        | error failure =>
            by_cases same : other = key
            · subst same
              simp [Memory.after, Except.toOption, serves_later (looked.symm.trans held) entered]
            · simp [Memory.after, same]
      · rw [Cache.lastComputed?, dates]
        cases outcome with
        | ok p =>
            by_cases same : zone = key.zone
            · simp [Memory.after, same, Except.toOption]
            · have before := stands.dates zone
              rw [Cache.lastComputed?] at before
              simp [Memory.after, same, Except.toOption, Table.get_insert_other _ _ _ _ same, before]
        | error failure => exact stands.dates zone

-- Where nothing but slots is dropped, the memory is as it was or forgets.
theorem quiet_matches (stands : Stands lifetime past m s.cache) {u : CacheUse}
    (timely : (past ++ u.readings).Pairwise (· ≤ ·)) (plain : ∀ key arrives looks ends outcome,
      u ≠ .call key arrives looks ends outcome) : Matches lifetime past u m s := by
  have since : ∀ {readings : List Instant} {later : Instant}, (∀ t ∈ past ++ readings, t ≤ later) → ∀ t ∈ past, t ≤ later :=
    fun after t member => after t (List.mem_append_left _ member)
  cases u with
  | call key arrives looks ends outcome => exact absurd rfl (plain key arrives looks ends outcome)
  | peek key now =>
      have looked := stands.held now (fun t member =>
        (List.pairwise_append.mp timely).2.2 t member now (by simp [CacheUse.readings])) key
      refine ⟨?_, ⟨stands.quiet, stands.life, fun later after => stands.held later (since after), stands.dates⟩,
        ⟨stands.quiet, rfl, rfl, rfl⟩⟩
      simp only [Calls.use, Memory.answer, Cache.peek_quiet stands.quiet, looked]
  | state key now =>
      have looked := stands.held now (fun t member =>
        (List.pairwise_append.mp timely).2.2 t member now (by simp [CacheUse.readings])) key
      refine ⟨?_, ⟨stands.quiet, stands.life, fun later after => stands.held later (since after), stands.dates⟩,
        ⟨stands.quiet, rfl, rfl, rfl⟩⟩
      simp only [Calls.use, Memory.answer, Cache.state_quiet stands.quiet, looked]
  | lastComputed zone =>
      refine ⟨?_, ⟨stands.quiet, stands.life, fun later after => stands.held later (since after), stands.dates⟩,
        ⟨stands.quiet, rfl, rfl, rfl⟩⟩
      simp only [Calls.use, Memory.answer, stands.dates]
  | purge now =>
      refine ⟨rfl, ⟨Cache.filter_quiet stands.quiet _, stands.life, fun later after key => ?_, stands.dates⟩,
        ⟨Cache.filter_quiet stands.quiet _, rfl, rfl, rfl⟩⟩
      have order : now ≤ later := after now (by simp [CacheUse.readings])
      exact (Cache.purge_held stands.quiet order).trans (stands.held later (since after) key)
  | retain generation =>
      refine ⟨rfl, ⟨Cache.filter_quiet stands.quiet _, stands.life, fun later after key => ?_, stands.dates⟩,
        ⟨Cache.filter_quiet stands.quiet _, rfl, rfl, rfl⟩⟩
      refine (Cache.retain_held generation).trans ?_
      rw [stands.held later (since after) key]
      by_cases same : key.generation = generation
      · simp [Memory.after, Memory.serves, same]
      · simp [Memory.after, Memory.serves, same]
  | clear =>
      have quiet : s.cache.clear.Quiet := ⟨stands.quiet.free, fun _ _ found => by cases found⟩
      exact ⟨rfl, ⟨quiet, stands.life, fun _ _ _ => rfl, stands.dates⟩, ⟨quiet, rfl, rfl, rfl⟩⟩

theorem use_matches (stands : Stands lifetime past m s.cache) (u : CacheUse)
    (timely : (past ++ u.readings).Pairwise (· ≤ ·)) : Matches lifetime past u m s := by
  cases u with
  | call key arrives looks ends outcome => exact call_matches stands timely
  | _ => exact quiet_matches stands timely (by nofun)

theorem play_matches (stands : Stands lifetime past m s.cache) (uses : List CacheUse)
    (timely : (past ++ uses.flatMap CacheUse.readings).Pairwise (· ≤ ·)) :
    (s.play uses).2 = log lifetime uses m ∧
      s.cache.Sequel (s.play uses).1.cache ((log lifetime uses m).map (·.2.hits)).sum
        ((log lifetime uses m).map (·.2.misses)).sum := by
  induction uses generalizing s m past with
  | nil => exact ⟨rfl, stands.quiet, rfl, rfl, rfl⟩
  | cons u rest ih =>
      rw [List.flatMap_cons, ← List.append_assoc] at timely
      have first := use_matches stands u (List.pairwise_append.mp timely).1
      obtain ⟨answers, sequel⟩ := ih first.stands timely
      refine ⟨?_, ?_⟩
      · simp only [Calls.play, log, answers, first.answer]
      · simp only [log, List.map_cons, List.sum_cons]
        exact Cache.sequel_trans first.sequel sequel

end Memory

-- What a computation stored for a key, and when.
def storedBy (key : Key) : CacheUse × CacheAnswer → Option (Prediction × Instant)
  | (.call k _ _ ends (.ok p), .called _ true) => if k = key then some (p, ends) else none
  | _ => none

-- All that is stored for a key is dropped.
def forgets (key : Key) : CacheUse × CacheAnswer → Bool
  | (.retain generation, _) => generation ≠ key.generation
  | (.clear, _) => true
  | _ => false

-- When a computation for a zone says it was made.
def datedBy (zone : String) : CacheUse × CacheAnswer → Option Timestamp
  | (.call k _ _ _ (.ok p), .called _ true) => if k.zone = zone then some p.generatedAt else none
  | _ => none

-- The last computation for the key that succeeded stored this value, which has been neither forgotten since nor
-- outlived by now.
def Recalled (lifetime : Span) (log : CacheLog) (key : Key) (now : Instant) (p : Prediction) : Prop :=
  ∃ since, Latest (storedBy key) (forgets key) log (p, since) ∧ now < since + lifetime.nanos

-- What a use is to be answered after these.
def Answers (lifetime : Span) (before : CacheLog) : CacheUse → CacheAnswer → Prop
  | .call key _ looks _ outcome, given =>
      (∀ p, given = .called (some (.ok ⟨p, true⟩)) false ↔ Recalled lifetime before key looks p) ∧
        ((¬ ∃ p, Recalled lifetime before key looks p) →
          given = .called (some (outcome.map fun p => ⟨p, false⟩)) true)
  | .peek key now, given => ∃ found, given = .peeked found ∧ ∀ p, found = some p ↔ Recalled lifetime before key now p
  | .state key now, given =>
      (given = .told .ready ↔ ∃ p, Recalled lifetime before key now p) ∧ (given = .told .ready ∨ given = .told .empty)
  | .lastComputed zone, given =>
      ∃ time, given = .dated time ∧ ∀ t, time = some t ↔ Latest (datedBy zone) (fun _ => false) before t
  | _, given => given = .done

-- A purge, or a computation that failed.
def Fruitless : CacheUse → CacheAnswer → Prop
  | .purge _, _ => True
  | .call .., .called (some (.error _)) _ => True
  | _, _ => False

namespace Memory

variable {lifetime : Span} {key : Key} {zone : String}

def remember (log : CacheLog) : Memory := log.foldl after {}

theorem after_stored (m : Memory) (e : CacheUse × CacheAnswer) :
    (m.after e).stored key = (storedBy key e).or (if forgets key e then none else m.stored key) := by
  obtain ⟨u, answer⟩ := e
  cases u with
  | call k arrives looks ends outcome =>
      cases outcome with
      | error failure => simp [after, storedBy, forgets]
      | ok p =>
          rcases answer with ⟨result, _ | _⟩ | _ | _ | _ | _
          · simp [after, storedBy, forgets]
          · by_cases same : k = key
            · simp [after, storedBy, same]
            · simp [after, storedBy, forgets, same, Ne.symm same]
          all_goals simp [after, storedBy, forgets]
  | retain generation =>
      by_cases same : generation = key.generation
      · simp [after, storedBy, forgets, same]
      · simp [after, storedBy, forgets, same, Ne.symm same]
  | clear => simp [after, storedBy, forgets]
  | _ => simp [after, storedBy, forgets]

theorem after_dates (m : Memory) (e : CacheUse × CacheAnswer) :
    (m.after e).dates zone = (datedBy zone e).or (m.dates zone) := by
  obtain ⟨u, answer⟩ := e
  cases u with
  | call k arrives looks ends outcome =>
      cases outcome with
      | error failure => simp [after, datedBy]
      | ok p =>
          rcases answer with ⟨result, _ | _⟩ | _ | _ | _ | _
          · simp [after, datedBy]
          · by_cases same : k.zone = zone
            · simp [after, datedBy, same]
            · simp [after, datedBy, same, Ne.symm same]
          all_goals simp [after, datedBy]
  | _ => simp [after, datedBy]

theorem remembered_stored (log : CacheLog) (value : Prediction × Instant) :
    (remember log).stored key = some value ↔ Latest (storedBy key) (forgets key) log value := by
  induction log using List.reverseRecOn with
  | nil => exact iff_of_false (by simp [remember]) latest_nil
  | append_singleton log e ih =>
      rw [latest_snoc, ← ih, remember, List.foldl_append, List.foldl_cons, List.foldl_nil, after_stored, remember]
      cases storedBy key e <;> cases forgets key e <;> simp

theorem remembered_dates (log : CacheLog) (time : Timestamp) :
    (remember log).dates zone = some time ↔ Latest (datedBy zone) (fun _ => false) log time := by
  induction log using List.reverseRecOn with
  | nil => exact iff_of_false (by simp [remember]) latest_nil
  | append_singleton log e ih =>
      rw [latest_snoc, ← ih, remember, List.foldl_append, List.foldl_cons, List.foldl_nil, after_dates, remember]
      cases datedBy zone e <;> simp

theorem remembered_serves (log : CacheLog) (now : Instant) (p : Prediction) :
    (remember log).serves lifetime now key = some p ↔ Recalled lifetime log key now p := by
  unfold serves Recalled
  rw [Option.bind_eq_some_iff]
  constructor
  · rintro ⟨⟨q, since⟩, stored, value⟩
    simp only [Content.value?] at value
    split at value
    · rename_i live
      cases value
      exact ⟨since, (remembered_stored log _).mp stored, live⟩
    · cases value
  · rintro ⟨since, stored, live⟩
    exact ⟨(p, since), (remembered_stored log _).mpr stored, by simp [Content.value?, live]⟩

theorem remembered_answers (log : CacheLog) (u : CacheUse) : Answers lifetime log u ((remember log).answer lifetime u) := by
  cases u with
  | call key arrives looks ends outcome =>
      simp only [Answers, answer]
      cases served : (remember log).serves lifetime looks key with
      | some p =>
          have holds := (remembered_serves log looks p).mp served
          refine ⟨fun q => ?_, fun none => absurd ⟨p, holds⟩ none⟩
          rw [← remembered_serves, served]
          simp
      | none =>
          refine ⟨fun q => ?_, fun _ => rfl⟩
          rw [← remembered_serves, served]
          simp
  | peek key now => exact ⟨_, rfl, fun p => remembered_serves log now p⟩
  | state key now =>
      simp only [Answers, answer]
      cases served : (remember log).serves lifetime now key with
      | some p => simpa using ⟨p, (remembered_serves log now p).mp served⟩
      | none => simp [← remembered_serves, served]
  | lastComputed zone => exact ⟨_, rfl, fun time => remembered_dates log time⟩
  | purge now => rfl
  | retain generation => rfl
  | clear => rfl

theorem fruitless_after {m : Memory} {u : CacheUse} (fruitless : Fruitless u (m.answer lifetime u)) :
    m.after (u, m.answer lifetime u) = m := by
  cases u with
  | call key arrives looks ends outcome =>
      cases outcome with
      | error failure => rfl
      | ok p =>
          simp only [answer] at fruitless
          split at fruitless <;> exact absurd fruitless id
  | purge now => rfl
  | _ => exact absurd fruitless id

end Memory

section

variable {limits : CacheLimits} {uses : List CacheUse}

theorem history_recalled (limits : CacheLimits) (timely : Timely uses) :
    limits.history uses = Memory.log limits.lifetime uses {} ∧
      (limits.used uses).hits = ((Memory.log limits.lifetime uses {}).map (·.2.hits)).sum ∧
      (limits.used uses).misses = ((Memory.log limits.lifetime uses {}).map (·.2.misses)).sum := by
  obtain ⟨answers, sequel⟩ := Memory.play_matches (s := { cache := { limits := limits } })
    (Memory.stands_fresh limits) uses (by rwa [List.nil_append])
  exact ⟨answers, sequel.hits.trans (Nat.zero_add _), sequel.misses.trans (Nat.zero_add _)⟩

def CacheUse.isCall : CacheUse → Bool
  | .call .. => true
  | _ => false

-- Every call is a hit or computes, and nothing else is either.
theorem log_counted (lifetime : Span) (uses : List CacheUse) (m : Memory) :
    ((Memory.log lifetime uses m).map (·.2.hits)).sum + ((Memory.log lifetime uses m).map (·.2.misses)).sum =
      uses.countP CacheUse.isCall := by
  induction uses generalizing m with
  | nil => rfl
  | cons u rest ih =>
      have here : (m.answer lifetime u).hits + (m.answer lifetime u).misses = if u.isCall then 1 else 0 := by
        cases u with
        | call key arrives looks ends outcome =>
            simp only [Memory.answer]
            split <;> rfl
        | _ => rfl
      have further := ih (m.after (u, m.answer lifetime u))
      simp only [Memory.log, List.map_cons, List.sum_cons, List.countP_cons]
      omega

theorem misses_counted (log : CacheLog) : (log.map (·.2.misses)).sum = log.countP (·.2.computed) := by
  induction log with
  | nil => rfl
  | cons e rest ih =>
      rw [List.map_cons, List.sum_cons, List.countP_cons, ih, Nat.add_comm]
      rfl

theorem timely_without {before after : List CacheUse} {u : CacheUse} (timely : Timely (before ++ u :: after)) :
    Timely before ∧ Timely (before ++ after) := by
  unfold Timely at timely ⊢
  simp only [List.flatMap_append, List.flatMap_cons] at timely ⊢
  refine ⟨timely.sublist (List.sublist_append_left ..), timely.sublist ?_⟩
  exact List.Sublist.append_left (List.sublist_append_right ..) _

end

namespace Sample

def failing : Except Failure Prediction := .error (.noModel "SCE")

-- A computation that fails, a purge, one that succeeds, a hit, and one after the registry has changed.
def uses : List CacheUse :=
  [.call sharedKey 0 0 5 failing, .purge 6, .call sharedKey 7 7 9 (.ok shared), .call sharedKey 10 10 10 failing,
    .state sharedKey 20, .lastComputed "SCE", .retain 2, .call sharedKey 30 30 31 failing]

theorem uses_timely : Timely uses := by
  unfold Timely
  decide

theorem uses_answered : ({} : CacheLimits).history uses =
    uses.zip [.called (some (.error (.noModel "SCE"))) true, .done, .called (some (.ok ⟨shared, false⟩)) true,
      .called (some (.ok ⟨shared, true⟩)) false, .told .ready, .dated (some shared.generatedAt), .done,
      .called (some (.error (.noModel "SCE"))) true] := by
  rfl

end Sample

end GridLoad
