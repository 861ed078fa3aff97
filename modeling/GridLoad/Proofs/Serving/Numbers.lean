import GridLoad.Proofs.Serving.Invariant

/-!
No two registries that were served bear one number. A number is handed to one request, which serves at most one
registry under it, as long as the counter has not come round.
-/

set_option autoImplicit false

namespace GridLoad

open Program

namespace Flight

def Drew (f : Flight) (n : Nat) : Prop := ⟨.act .generation, n⟩ ∈ f.transcript

def Served (f : Flight) (r : Registry) : Prop := ⟨.act (.publish r), ()⟩ ∈ f.transcript

end Flight

structure Numbered (r : Registry) (w : World) : Prop where
  next : w.engine.publication.next = r.generation + 1 + w.history.numbers.length
  between : ∀ f ∈ w.flights, ∀ n, f.Drew n → r.generation < n ∧ n < r.generation + 1 + w.history.numbers.length
  apart : ∀ (i j : Nat) (f g : Flight), w.flights[i]? = some f → w.flights[j]? = some g →
    ∀ n, f.Drew n → g.Drew n → i = j
  servers : ∃ later, w.history.published = r :: later ∧
    ∀ r' ∈ later, ∃ f ∈ w.flights, f.Served r' ∧ f.Drew r'.generation
  distinct : w.history.published.Pairwise fun a b => a.generation ≠ b.generation

namespace World

-- The counter of numbers has not come round.
def Counted (r : Registry) (w : World) : Prop := r.generation + 1 + w.history.numbers.length < generationLimit

variable {r : Registry} {w : World} {i : Nat} {f : Flight}

theorem numbered_first {running : Running} {setup : Setup} (begins : Begins setup r running)
    (counted : (World.first r running.engine).Counted r) : Numbered r (World.first r running.engine) := by
  have small : r.generation + 1 < generationLimit := counted
  refine ⟨?_, fun f none => (nomatch none), fun i j f g none => (nomatch none), ⟨[], rfl, fun _ none => nomatch none⟩, ?_⟩
  · rw [first, begins.publication]
    exact Nat.mod_eq_of_lt small
  · exact List.pairwise_singleton _ _

-- Flights whose transcripts say the same of numbers and registries stand for each other.
theorem numbered_same {e : Engine} {h : History} {flights : List Flight} (numbered : Numbered r w)
    (next : e.publication.next = w.engine.publication.next) (numbers : h.numbers = w.history.numbers)
    (published : h.published = w.history.published)
    (back : ∀ (j : Nat) (g : Flight), flights[j]? = some g → (∃ n, g.Drew n) →
      ∃ g', w.flights[j]? = some g' ∧ ∀ n, g.Drew n → g'.Drew n)
    (forth : ∀ g ∈ w.flights, ∃ g' ∈ flights, (∀ n, g.Drew n → g'.Drew n) ∧ ∀ r', g.Served r' → g'.Served r') :
    Numbered r { engine := e, flights := flights, history := h } where
  next := by
    rw [next, numbers]
    exact numbered.next
  between g member n drew := by
    obtain ⟨j, there⟩ := List.getElem?_of_mem member
    obtain ⟨g', there', drawn⟩ := back j g there ⟨n, drew⟩
    rw [numbers]
    exact numbered.between g' (List.mem_of_getElem? there') n (drawn n drew)
  apart i j f g here there n first second := by
    obtain ⟨f', here', first'⟩ := back i f here ⟨n, first⟩
    obtain ⟨g', there', second'⟩ := back j g there ⟨n, second⟩
    exact numbered.apart i j f' g' here' there' n (first' n first) (second' n second)
  servers := by
    obtain ⟨later, split, servers⟩ := numbered.servers
    refine ⟨later, published.trans split, fun r' member => ?_⟩
    obtain ⟨f, known, served, drew⟩ := servers r' member
    obtain ⟨f', known', drawn, serving⟩ := forth f known
    exact ⟨f', known', serving r' served, drawn _ drew⟩
  distinct := by
    rw [published]
    exact numbered.distinct

theorem set_at {flights : List Flight} {f f' g : Flight} {i j : Nat} (there : flights[i]? = some f)
    (found : (flights.set i f')[j]? = some g) : j = i ∧ g = f' ∨ j ≠ i ∧ flights[j]? = some g := by
  by_cases same : j = i
  · subst same
    have inside : j < flights.length := (List.getElem?_eq_some_iff.mp there).1
    rw [List.getElem?_set_self inside] at found
    exact .inl ⟨rfl, (Option.some.inj found).symm⟩
  · rw [List.getElem?_set_ne (Ne.symm same)] at found
    exact .inr ⟨same, found⟩

theorem set_keeps {flights : List Flight} {f g : Flight} {i : Nat} (f' : Flight) (there : flights[i]? = some f)
    (member : g ∈ flights) : g = f ∨ g ∈ flights.set i f' := by
  obtain ⟨j, place⟩ := List.getElem?_of_mem member
  by_cases same : j = i
  · subst same
    exact .inl (Option.some.inj (place.symm.trans there))
  · have still : (flights.set i f')[j]? = some g := by rw [List.getElem?_set_ne (Ne.symm same), place]
    exact .inr (List.mem_of_getElem? still)

theorem set_holds {flights : List Flight} {f f' : Flight} {i : Nat} (there : flights[i]? = some f) :
    f' ∈ flights.set i f' :=
  List.mem_set (List.getElem?_eq_some_iff.mp there).1 f'

-- One flight goes on, and says nothing new of numbers and registries.
theorem numbered_set {e : Engine} {h : History} {f' : Flight} (numbered : Numbered r w)
    (there : w.flights[i]? = some f) (next : e.publication.next = w.engine.publication.next)
    (numbers : h.numbers = w.history.numbers) (published : h.published = w.history.published)
    (drawn : ∀ n, f'.Drew n ↔ f.Drew n) (serving : ∀ r', f.Served r' → f'.Served r') :
    Numbered r { engine := e, flights := w.flights.set i f', history := h } := by
  refine numbered_same numbered next numbers published ?_ ?_
  · intro j g found _
    rcases set_at there found with ⟨rfl, rfl⟩ | ⟨_, old⟩
    · exact ⟨f, there, fun n => (drawn n).mp⟩
    · exact ⟨g, old, fun n drew => drew⟩
  · intro g member
    rcases set_keeps f' there member with rfl | still
    · exact ⟨f', set_holds there, fun n => (drawn n).mpr, serving⟩
    · exact ⟨g, still, fun _ drew => drew, fun _ served => served⟩

theorem numbered_arrive (v : Service) (ask : Ask) (numbered : Numbered r w) : Numbered r (w.arrive v ask) := by
  refine numbered_same numbered rfl rfl rfl ?_ ?_
  · rintro j g found ⟨n, drew⟩
    by_cases old : j < w.flights.length
    · rw [List.getElem?_append_left old] at found
      exact ⟨g, found, fun _ drew => drew⟩
    · have last := List.mem_of_getElem? found
      rw [List.getElem?_append_right (Nat.le_of_not_lt old)] at found
      cases List.mem_singleton.mp (List.mem_of_getElem? found)
      cases drew
  · intro g member
    exact ⟨g, List.mem_append_left _ member, fun _ drew => drew, fun _ served => served⟩

theorem numbered_engine {e : Engine} {h : History} (numbered : Numbered r w)
    (next : e.publication.next = w.engine.publication.next) (numbers : h.numbers = w.history.numbers)
    (published : h.published = w.history.published) : Numbered r { w with engine := e, history := h } := by
  refine numbered_same numbered next numbers published ?_ ?_
  · exact fun j g found _ => ⟨g, found, fun _ drew => drew⟩
  · exact fun g member => ⟨g, member, fun _ drew => drew, fun _ served => served⟩

-- The next number is drawn, which no one has drawn before.
theorem numbered_draw {rest : Serve f.ask.Answer} (numbered : Numbered r w) (there : w.flights[i]? = some f)
    (room : r.generation + 1 + w.history.numbers.length + 1 < generationLimit) :
    Numbered r (w.exchange i f (w.engine.perform .generation).1
      ⟨.act .generation, (w.engine.perform .generation).2⟩ rest) := by
  have drawn : (w.engine.perform .generation).2 = r.generation + 1 + w.history.numbers.length := numbered.next
  have grown : (w.history.after ⟨.act .generation, (w.engine.perform .generation).2⟩).numbers.length =
      w.history.numbers.length + 1 := by simp [History.after]
  have fresh : ∀ g ∈ w.flights, ¬ g.Drew (r.generation + 1 + w.history.numbers.length) := by
    intro g member drew
    exact Nat.lt_irrefl _ (numbered.between g member _ drew).2
  have extended : ∀ n, (f.goOn ⟨.act .generation, (w.engine.perform .generation).2⟩ rest).Drew n →
      f.Drew n ∨ n = r.generation + 1 + w.history.numbers.length := by
    intro n drew
    rcases List.mem_append.mp drew with before | last
    · exact .inl before
    · right
      rw [drawn] at last
      simpa using last
  refine ⟨?_, ?_, ?_, ?_, numbered.distinct⟩
  · change (w.engine.publication.next + 1) % generationLimit = r.generation + 1 + (w.history.after _).numbers.length
    rw [grown, numbered.next, Nat.mod_eq_of_lt room]
    omega
  · intro g member n drew
    simp only [exchange, grown] at member ⊢
    rcases List.mem_or_eq_of_mem_set member with old | rfl
    · have between := numbered.between g old n drew
      omega
    · rcases extended n drew with before | rfl
      · have between := numbered.between f (List.mem_of_getElem? there) n before
        omega
      · omega
  · intro j k g g' here here' n first second
    have known : ∀ {j : Nat} {g : Flight}, w.flights[j]? = some g → g ∈ w.flights := List.mem_of_getElem?
    rcases set_at there here with ⟨rfl, rfl⟩ | ⟨other, old⟩
    · rcases set_at there here' with ⟨rfl, rfl⟩ | ⟨other', old'⟩
      · rfl
      · rcases extended n first with before | rfl
        · exact numbered.apart _ _ _ _ there old' n before second
        · exact absurd second (fresh g' (known old'))
    · rcases set_at there here' with ⟨rfl, rfl⟩ | ⟨other', old'⟩
      · rcases extended n second with before | rfl
        · exact numbered.apart _ _ _ _ old there n first before
        · exact absurd first (fresh g (known old))
      · exact numbered.apart _ _ _ _ old old' n first second
  · obtain ⟨later, split, servers⟩ := numbered.servers
    refine ⟨later, split, fun r' member => ?_⟩
    obtain ⟨g, known, served, drew⟩ := servers r' member
    rcases set_keeps _ there known with rfl | still
    · exact ⟨_, set_holds there, List.mem_append_left _ served, List.mem_append_left _ drew⟩
    · exact ⟨g, still, served, drew⟩

-- A registry is served under a number that was drawn for it alone, and for the first time.
theorem numbered_publish {r' : Registry} {rest : Serve f.ask.Answer} (numbered : Numbered r w)
    (there : w.flights[i]? = some f) (drew : f.Drew r'.generation) (first : ∀ r'' : Registry, ¬ f.Served r'')
    (counted : w.Counted r) :
    Numbered r (w.exchange i f (w.engine.perform (.publish r')).1 ⟨.act (.publish r'), ()⟩ rest) := by
  have between := numbered.between f (List.mem_of_getElem? there) _ drew
  have drawn : ∀ n, (f.goOn ⟨.act (.publish r'), ()⟩ rest).Drew n ↔ f.Drew n := by
    intro n
    simp [Flight.Drew, Flight.goOn]
  have kept : Numbered r { w with flights := w.flights.set i (f.goOn ⟨.act (.publish r'), ()⟩ rest) } :=
    numbered_set numbered there rfl rfl rfl drawn fun _ served => List.mem_append_left _ served
  obtain ⟨later, split, servers⟩ := numbered.servers
  refine ⟨?_, kept.between, kept.apart, ?_, ?_⟩
  · have room : r'.generation + 1 < generationLimit := Nat.lt_of_le_of_lt (Nat.succ_le_of_lt between.2) counted
    change max w.engine.publication.next ((r'.generation + 1) % generationLimit) = _
    rw [Nat.mod_eq_of_lt room, numbered.next]
    exact Nat.max_eq_left (Nat.succ_le_of_lt between.2)
  · obtain ⟨later, split, servers⟩ := kept.servers
    have whole : w.history.published ++ [r'] = r :: (later ++ [r']) := by
      rw [show w.history.published = r :: later from split, List.cons_append]
    refine ⟨later ++ [r'], whole, fun r'' member => ?_⟩
    rcases List.mem_append.mp member with before | last
    · exact servers r'' before
    · cases List.mem_singleton.mp last
      refine ⟨f.goOn ⟨.act (.publish r'), ()⟩ rest, set_holds there, ?_, (drawn _).mpr drew⟩
      exact List.mem_append_right _ (List.mem_singleton_self _)
  · refine List.pairwise_append.mpr ⟨numbered.distinct, List.pairwise_singleton _ _, fun r'' member last one => ?_⟩
    cases List.mem_singleton.mp one
    intro same
    rw [split] at member
    rcases List.mem_cons.mp member with rfl | before
    · omega
    · obtain ⟨g, known, served, drew'⟩ := servers r'' before
      obtain ⟨j, place⟩ := List.getElem?_of_mem known
      have one : j = i := numbered.apart j i g f place there _ drew' (same ▸ drew)
      subst one
      cases Option.some.inj (place.symm.trans there)
      exact first r'' served

end World

def Act.Numbers : Act → Prop
  | .generation => True
  | .publish _ => True
  | _ => False

theorem perform_publication {a : Act} (other : ¬ a.Numbers) (e : Engine) :
    (e.perform a).1.publication = e.publication := by
  cases a with
  | generation => exact absurd trivial other
  | publish => exact absurd trivial other
  | look =>
      obtain ⟨_, _, same⟩ := e.look_apart
      rw [same]
  | _ => rfl

theorem after_other {a : Act} (other : ¬ a.Numbers) (h : History) (answer : a.Answer) :
    (h.after ⟨.act a, answer⟩).numbers = h.numbers ∧ (h.after ⟨.act a, answer⟩).published = h.published := by
  cases a with
  | generation => exact absurd trivial other
  | publish => exact absurd trivial other
  | _ => exact ⟨rfl, rfl⟩

theorem drew_on {f : Flight} {x : Exchange Question.Answer} {rest : Serve f.ask.Answer}
    (other : ∀ n, x ≠ ⟨.act .generation, n⟩) (n : Nat) : (f.goOn x rest).Drew n ↔ f.Drew n := by
  have different := other n
  simp [Flight.Drew, Flight.goOn, Ne.symm different]

namespace World

variable {v : Service} {r : Registry} {w w' : World} {i : Nat} {f : Flight}

theorem numbered_exchange {e : Engine} {x : Exchange Question.Answer} {rest : Serve f.ask.Answer}
    (numbered : Numbered r w) (there : w.flights[i]? = some f) (next : e.publication = w.engine.publication)
    (numbers : (w.history.after x).numbers = w.history.numbers)
    (published : (w.history.after x).published = w.history.published) (other : ∀ n, x ≠ ⟨.act .generation, n⟩) :
    Numbered r (w.exchange i f e x rest) :=
  numbered_set numbered there (congrArg Publication.next next) numbers published (drew_on other)
    fun _ served => List.mem_append_left _ served

theorem numbered_act {a : Act} {next : a.Answer → Serve f.ask.Answer} (numbered : Numbered r w)
    (there : w.flights[i]? = some f) (allowed : w.ledger.Allows v.setup f.transcript (.act a))
    (counted : (w.exchange i f (w.engine.perform a).1 ⟨.act a, (w.engine.perform a).2⟩
      (next (w.engine.perform a).2)).Counted r) :
    Numbered r (w.exchange i f (w.engine.perform a).1 ⟨.act a, (w.engine.perform a).2⟩
      (next (w.engine.perform a).2)) := by
  by_cases numbering : a.Numbers
  · cases a with
    | generation =>
        have room : r.generation + 1 + w.history.numbers.length + 1 < generationLimit := by
          simpa [Counted, exchange, History.after, Nat.add_assoc] using counted
        exact numbered_draw numbered there room
    | publish r' => exact numbered_publish numbered there allowed.1 allowed.2 counted
    | _ => exact absurd numbering id
  · have kept := after_other numbering w.history (w.engine.perform a).2
    refine numbered_exchange numbered there (perform_publication numbering _) kept.1 kept.2 ?_
    rintro n same
    cases same
    exact numbering trivial

theorem attempt_publication (e : Engine) (caller : Caller) (wait : Wait) :
    (e.attempt caller wait).1.publication = e.publication := by
  obtain ⟨_, _, same⟩ := e.attempt_apart caller wait
  rw [same]

theorem give_up_publication (e : Engine) (caller : Caller) (wait : Wait) :
    (e.giveUp caller wait).publication = e.publication := by
  obtain ⟨_, same⟩ := e.give_up_apart caller wait
  rw [same]

theorem numbered_step (flat : v.setup.catalog.Flat) (sound : w.Sound v) (numbered : Numbered r w)
    (step : Step v w w') (counted : w'.Counted r) : Numbered r w' := by
  cases step with
  | arrives ask => exact numbered_arrive v ask numbered
  | acts there live turn =>
      have allowed := Flight.sound_allowed flat (sound.flights _ (flight_mem there)) turn
      exact numbered_act numbered there allowed counted
  | @answered i f wait next answer there live turn given =>
      exact numbered_exchange numbered there (attempt_publication _ f.caller wait) rfl rfl fun n same => nomatch same
  | @waits i f wait next there live turn pending =>
      exact numbered_engine numbered (congrArg Publication.next (attempt_publication _ f.caller wait)) rfl rfl
  | late there live turn => exact numbered_exchange numbered there rfl rfl rfl fun n same => nomatch same
  | @cut i f wait next there live turn =>
      exact numbered_exchange numbered there (give_up_publication _ f.caller wait) rfl rfl fun n same => nomatch same
  | drops there live => exact numbered_set numbered there rfl rfl rfl (fun n => Iff.rfl) fun _ served => served
  | fetched id => exact numbered_engine (w := w) numbered rfl rfl rfl
  | recorded id => exact numbered_engine (w := w) numbered rfl rfl rfl
  | reported id => exact numbered_engine (w := w) numbered rfl rfl rfl
  | outside files source clock journal later => exact numbered_engine (w := w) numbered rfl rfl rfl

theorem after_numbers (h : History) (x : Exchange Question.Answer) : h.numbers.length ≤ (h.after x).numbers.length := by
  unfold History.after
  split <;> simp

theorem counted_back (step : Step v w w') (counted : w'.Counted r) : w.Counted r := by
  have more : w.history.numbers.length ≤ w'.history.numbers.length := by
    cases step with
    | acts => exact after_numbers _ _
    | _ => exact Nat.le_refl _
  unfold Counted at counted ⊢
  omega

end World

theorem reachable_numbered {v : Service} {r : Registry} {w : World} (reachable : Reachable v r w)
    (counted : w.Counted r) : Numbered r w := by
  induction reachable with
  | launched accepted started => exact World.numbered_first (launch_begins started) counted
  | further before step ih =>
      have numbered := ih (World.counted_back step counted)
      exact World.numbered_step (reachable_flat before) (reachable_sound before) numbered step counted

end GridLoad
