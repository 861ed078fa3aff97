import GridLoad.Proofs.Feature.Retained
import GridLoad.Proofs.Serving.Provenance
import GridLoad.Proofs.Serving.Questions

/-!
Tokens where requests overtake one another. The time of a token is cut short by nobody but a request that was told
before that the token had expired, and that forgets it when it has been made known anew meanwhile. A purge takes the
difference of what it counts before and after it drops tokens, so that those that are made known meanwhile count
against those that it drops.
-/

set_option autoImplicit false

namespace GridLoad

open Program
open GridLoad.Time (Instant)

section Steps

-- A request that is about to forget a token.
def Flight.IsForgetting (token : Token) (f : Flight) : Prop :=
  f.dropped = false ∧ ∃ next, f.rest = .ask (.act (.forget token)) next

-- What a step does to the tokens that can be asked for.
inductive Handled (w w' : World) : Prop
  -- None is entered, and none is lost but such as have expired.
  | sheds (sheds : w.engine.captures.Sheds w'.engine.captures w.engine.now)
      (named : w'.history.named = w.history.named)
  | names (s : NamedSnapshot) (rules : w'.engine.captures.rules = w.engine.captures.rules)
      (pins : w'.engine.captures.pins = w.engine.captures.pins.insert s.token ⟨s, w.engine.now⟩)
      (named : w'.history.named = w.history.named ++ [s])
  | forgets {f : Flight} {token : Token} (there : f ∈ w.flights) (forgetting : f.IsForgetting token)
      (captures : w'.engine.captures = w.engine.captures.forget token)
      (named : w'.history.named = w.history.named)

variable {v : Service} {w w' : World}

theorem handled_same (captures : w'.engine.captures = w.engine.captures) (named : w'.history.named = w.history.named) :
    Handled w w' :=
  .sheds (captures ▸ Captures.sheds_same rfl rfl) named

theorem attempt_captures (caller : Caller) (wait : Wait) (e : Engine) :
    (e.attempt caller wait).1.captures = e.captures := by
  obtain ⟨_, _, same⟩ := e.attempt_apart caller wait
  rw [same]

theorem attempt_now (caller : Caller) (wait : Wait) (e : Engine) : (e.attempt caller wait).1.now = e.now := by
  obtain ⟨_, _, same⟩ := e.attempt_apart caller wait
  rw [same]
  rfl

theorem look_sheds (e : Engine) : e.captures.Sheds e.look.1.captures e.now := by
  have joined : e.captures.Sheds e.joinRefresh.1.captures e.now := by
    unfold Engine.joinRefresh
    cases e.captures.live? <;> exact Captures.sheds_same rfl rfl
  unfold Engine.look
  split
  · exact Captures.sheds_same rfl rfl
  · exact joined

theorem step_handled (step : Step v w w') : Handled w w' := by
  cases step with
  | arrives ask => exact handled_same rfl rfl
  | @acts i f a next there live turn =>
      cases a with
      | look => exact .sheds (look_sheds w.engine) rfl
      | pin s => exact .names s rfl rfl rfl
      | forget token => exact .forgets (List.mem_of_getElem? there) ⟨live, next, turn⟩ rfl rfl
      | dropPins => exact .sheds Captures.drop_expired_sheds rfl
      | _ => exact handled_same rfl rfl
  | @answered i f wait => exact handled_same (attempt_captures f.caller wait w.engine) rfl
  | @waits i f wait => exact handled_same (attempt_captures f.caller wait w.engine) rfl
  | late => exact handled_same rfl rfl
  | @cut i f wait => cases wait <;> exact handled_same rfl rfl
  | drops => exact handled_same rfl rfl
  | fetched id =>
      have pins := @Captures.end_fetch_pins w.engine.captures w.engine.now id
      cases named : w.engine.captures.fetched? id with
      | none =>
          rw [named] at pins
          refine .sheds (Captures.sheds_same Captures.end_fetch_rules pins) ?_
          simp [World.endFetch, named]
      | some s =>
          rw [named] at pins
          refine .names s Captures.end_fetch_rules pins ?_
          simp [World.endFetch, named]
  | recorded id => exact .sheds Captures.record_sheds rfl
  | reported id => exact .sheds Captures.report_sheds rfl
  | outside => exact handled_same rfl rfl

theorem step_later (step : Step v w w') : w.engine.now ≤ w'.engine.now := by
  cases step with
  | @acts i f a =>
      cases a with
      | look =>
          obtain ⟨source, captures, same⟩ := Engine.look_apart w.engine
          exact Nat.le_of_eq (congrArg Engine.now same).symm
      | _ => exact Nat.le_refl _
  | @answered i f wait => exact Nat.le_of_eq (attempt_now f.caller wait w.engine).symm
  | @waits i f wait => exact Nat.le_of_eq (attempt_now f.caller wait w.engine).symm
  | @cut i f wait => cases wait <;> exact Nat.le_refl _
  | outside files source clock journal later => exact later
  | _ => exact Nat.le_refl _

theorem became_reachable {first : Registry} (reachable : Reachable v first w) (became : Became v w w') :
    Reachable v first w' := by
  induction became with
  | still => exact reachable
  | later _ step ih => exact .further ih step

end Steps

section Conduct

-- A token is forgotten by those alone who have just been told that it has expired.
def forgetsExpired : Conduct Question.Answer where
  rely _ _ := True
  guarantee t q := ∀ token, q = .act (.forget token) → ∃ before s, t = before ++ [⟨.act (.pinned token), some (s, true)⟩]

def Question.Spares (q : Question) : Prop := ∀ token, q ≠ .act (.forget token)

variable {v : Service} {α : Type} {t : Transcript}

theorem spares_conduct {p : Serve α} (asks : Asks Question.Spares p) :
    Meets forgetsExpired (fun _ _ => True) p t :=
  asks_meets (fun _ => True) asks (fun _ _ _ spares token same => absurd same (spares token)) (fun _ _ _ _ _ => trivial)
    trivial

theorem current_spares (q : Question) (kind : q.OfCurrent) : q.Spares := by
  rintro token rfl
  exact kind

theorem lookup_spares (q : Question) (kind : q.OfLookup) : q.Spares := by
  rintro token rfl
  exact kind

theorem replacement_spares (q : Question) (kind : q.OfReplacement) : q.Spares := by
  rintro token rfl
  exact kind

theorem aside_spares (q : Question) (kind : q.Aside) : q.Spares := by
  rintro token rfl
  exact kind

theorem note_spares (event : Event) : (Question.act (.note event)).Spares := nofun

theorem pinned_conduct (token : Token) : Meets forgetsExpired (fun _ _ => True) (pinnedSnapshot token) t := by
  refine ⟨nofun, fun found _ => ?_⟩
  match found with
  | none => trivial
  | some (_, false) => trivial
  | some (s, true) =>
      refine ⟨fun other same => ?_, fun _ _ => trivial⟩
      cases same
      exact ⟨t, s, rfl⟩

theorem snapshot_conduct (sourceName zone : String) (o : Options) :
    Meets forgetsExpired (fun _ _ => True) (snapshotFor v.setup sourceName zone o) t := by
  have looked : Meets forgetsExpired (fun _ _ => True) (baseSnapshot v.setup sourceName o.snapshot) t := by
    cases o.snapshot with
    | some token => exact pinned_conduct token
    | none =>
        refine spares_conduct (asks_bind (asks_weaken (asks_current_snapshot _ _) current_spares) fun served => ?_)
        cases sourceFinding served with
        | some finding => exact asks_act nofun fun _ => asks_pure _
        | none => exact asks_pure _
  refine meets_bind looked fun u base _ => ?_
  cases base with
  | error halt => trivial
  | ok base =>
      refine spares_conduct (asks_bind (asks_weaken (asks_check_freshness _ base) current_spares) fun checked => ?_)
      cases checked with
      | error halt => exact asks_pure _
      | ok _ => exact asks_bind (asks_weaken (asks_derive_snapshot base _ _) current_spares) fun _ => asks_pure _

theorem bounded_conduct {operation : String} {body : Serve (Outcome α)}
    (met : Meets forgetsExpired (fun _ _ => True) body t) :
    Meets forgetsExpired (fun _ _ => True) (bounded v.setup operation body) t := by
  refine meets_bind met fun u out _ => spares_conduct ?_
  match out with
  | .ok value => exact asks_act nofun fun _ => asks_pure _
  | .error .pastCalendar => exact asks_pure _
  | .error (.failed failure) => exact asks_act nofun fun _ => asks_act nofun fun _ => asks_pure _
  | .error .outOfTime => exact asks_act nofun fun _ => asks_act nofun fun _ => asks_pure _

-- Forecasts and trends: what follows the snapshot forgets nothing.
theorem on_basis_conduct (zone : String) (o : Options) {further : Registry → NamedSnapshot → Serve (Outcome α)}
    (spares : ∀ r s, Asks Question.Spares (further r s)) :
    Meets forgetsExpired (fun _ _ => True) (v.onBasis zone o further) t := by
  have based : Meets forgetsExpired (fun _ _ => True) (v.basis zone o) t := by
    refine meets_first nofun fun r _ => ?_
    split
    · trivial
    · exact meets_bind (snapshot_conduct v.sourceName zone o) fun _ _ _ => trivial
  refine meets_bind based fun u both _ => ?_
  obtain ⟨r, base⟩ := both
  cases base with
  | error halt => trivial
  | ok s => exact spares_conduct (spares r s)

theorem resolve_spares {setup : Setup} {r : Registry} {zone : String} {horizon : Nat} {s : NamedSnapshot} :
    Asks Question.Spares (resolve setup r zone horizon s) := asks_weaken asks_resolve lookup_spares

theorem series_spares (r : Registry) (zone : String) (s : NamedSnapshot) (horizons : List Nat) :
    Asks Question.Spares (Service.series v.setup r zone s horizons) := by
  induction horizons with
  | nil => exact asks_pure _
  | cons horizon rest ih =>
      rw [Service.series]
      refine asks_bind resolve_spares fun out => ?_
      cases out with
      | error halt => exact asks_pure _
      | ok c => exact asks_act (note_spares _) fun _ => asks_bind ih fun _ => asks_pure _

theorem current_forecast_conduct (r : Registry) (zone : String) :
    Meets forgetsExpired (fun _ _ => True) (v.currentForecast r zone) t := by
  refine meets_bind (snapshot_conduct v.sourceName zone {}) fun u base _ => ?_
  cases base with
  | error halt => trivial
  | ok s => exact spares_conduct resolve_spares

theorem status_conduct (zone : String) : Meets forgetsExpired (fun _ _ => True) (v.status zone) t := by
  refine bounded_conduct (meets_first nofun fun r _ => ?_)
  split
  · trivial
  · refine meets_bind (current_forecast_conduct r zone) fun u out _ => spares_conduct ?_
    match out with
    | .ok c => exact asks_act nofun fun _ => asks_act nofun fun _ => asks_pure _
    | .error (.failed failure) => exact asks_act nofun fun _ => asks_pure _
    | .error .pastCalendar => exact asks_pure _
    | .error .outOfTime => exact asks_pure _

theorem operation_conduct (op : Operation) : Meets forgetsExpired (fun _ _ => True) (op.program v) t := by
  cases op with
  | predict zone horizon options =>
      rw [Operation.program, predict_on_basis]
      refine bounded_conduct (on_basis_conduct zone options fun r s => asks_bind resolve_spares fun out => ?_)
      cases out with
      | error halt => exact asks_pure _
      | ok c => exact asks_act nofun fun _ => asks_pure _
  | trend zone horizons options =>
      rw [Operation.program, trend_on_basis]
      exact bounded_conduct (on_basis_conduct zone options fun r s => series_spares r zone s horizons)
  | status zone => exact status_conduct zone
  | reload => exact spares_conduct (asks_weaken asks_reload replacement_spares)

theorem ask_conduct (ask : Ask) : Meets forgetsExpired (fun _ _ => True) (ask.program v) [] :=
  ask_meets ask operation_conduct (fun _ q _ aside token same => absurd same (aside_spares q aside token))
    (fun _ _ _ _ _ => trivial) trivial

-- Whoever is to forget a token was told last that it has expired.
theorem forgetting_told {first : Registry} {w : World} (reachable : Reachable v first w) {f : Flight} {token : Token}
    (member : f ∈ w.flights) (forgetting : f.IsForgetting token) :
    ∃ before s, f.transcript = before ++ [⟨.act (.pinned token), some (s, true)⟩] := by
  obtain ⟨_, next, turn⟩ := forgetting
  have led := ((reachable_sound reachable).flights f member).led
  have met := meets_leads (ask_conduct f.ask) led fun _ _ => trivial
  rw [turn] at met
  exact met.1 token rfl

end Conduct

section Kept

-- Under the token there is a snapshot that was touched then or later: the one that was, or one named since.
def World.Keeps (w : World) (token : Token) (s : NamedSnapshot) (since : Instant) : Prop :=
  ∃ d, w.engine.captures.pinned? token = some d ∧ since ≤ d.instant ∧
    (d.named = s ∨ d.named ∈ w.history.named ∧ d.named.token = token)

-- A token is kept and nobody is to forget it, or its time is over.
inductive World.Lasts (w : World) (token : Token) (s : NamedSnapshot) (since : Instant) : Prop
  | kept (begun : since ≤ w.engine.now) (keeps : w.Keeps token s since)
      (idle : ∀ f ∈ w.flights, ¬ f.IsForgetting token)
  | lapsed (late : since + w.engine.captures.rules.retention.nanos < w.engine.now)

variable {v : Service} {first : Registry} {w w' : World} {token : Token} {s : NamedSnapshot} {since : Instant}

theorem handled_rules (handled : Handled w w') : w'.engine.captures.rules = w.engine.captures.rules := by
  cases handled with
  | sheds sheds => exact sheds.rules
  | names s rules => exact rules
  | forgets there forgetting captures =>
      rw [captures]
      rfl

theorem handled_keeps (handled : Handled w w') (begun : since ≤ w.engine.now) (keeps : w.Keeps token s since)
    (idle : ∀ f ∈ w.flights, ¬ f.IsForgetting token) :
    w'.Keeps token s since ∨ since + w.engine.captures.rules.retention.nanos < w.engine.now := by
  obtain ⟨d, there, late, whose⟩ := keeps
  cases handled with
  | sheds sheds named =>
      rcases sheds.pins token with same | ⟨_, d', there', expired⟩
      · exact .inl ⟨d, same.trans there, late, named ▸ whose⟩
      · cases there.symm.trans there'
        exact .inr (Nat.lt_of_le_of_lt (Nat.add_le_add_right late _) (Captures.expired_iff.mp expired))
  | names s' rules pins named =>
      refine .inl ?_
      by_cases same : token = s'.token
      · subst same
        refine ⟨⟨s', w.engine.now⟩, ?_, begun, .inr ⟨by simp [named], rfl⟩⟩
        rw [Captures.pinned?, pins, Table.get_insert_self]
      · refine ⟨d, ?_, late, whose.imp_right fun ⟨old, own⟩ => ⟨by simp [named, old], own⟩⟩
        rwa [Captures.pinned?, pins, Table.get_insert_other _ _ _ _ same]
  | @forgets f other member forgetting captures named =>
      have apart : other ≠ token := by
        rintro rfl
        exact idle f member forgetting
      refine .inl ⟨d, ?_, late, named ▸ whose⟩
      rwa [captures, Captures.pinned?, Captures.forget, Table.get_erase, if_neg apart]

-- Nobody is to forget the token who has not been told since that it has expired.
theorem step_idle (reachable : Reachable v first w) (step : Step v w w') (keeps : w.Keeps token s since)
    (idle : ∀ f ∈ w.flights, ¬ f.IsForgetting token) : (∀ f ∈ w'.flights, ¬ f.IsForgetting token) ∨
      since + w.engine.captures.rules.retention.nanos < w.engine.now := by
  by_contra! neither
  obtain ⟨⟨f', member, forgetting⟩, soon⟩ := neither
  obtain ⟨before, s', told⟩ := forgetting_told (.further reachable step) member forgetting
  obtain ⟨i, found⟩ := List.getElem?_of_mem member
  obtain ⟨f, there, steps⟩ := step_flight step found (by simp [told])
  cases steps with
  | still => exact idle _ (List.mem_of_getElem? there) forgetting
  | dropped => cases forgetting.1
  | further rest utters =>
      have last := List.append_inj_right' told rfl
      have answer := uttered_act utters (List.cons.inj last).1
      obtain ⟨d, there', late, _⟩ := keeps
      have expired : w.engine.captures.isExpired w.engine.now d = true := by
        simp only [Engine.perform, there', Option.map_some, Option.some.injEq, Prod.mk.injEq] at answer
        exact answer.2.symm
      have beyond := Nat.lt_of_le_of_lt (Nat.add_le_add_right late _) (Captures.expired_iff.mp expired)
      exact absurd soon (Nat.not_le.mpr beyond)

theorem step_lasts (reachable : Reachable v first w) (step : Step v w w') (lasts : w.Lasts token s since) :
    w'.Lasts token s since := by
  have rules := handled_rules (step_handled step)
  have later := step_later step
  cases lasts with
  | lapsed late => exact .lapsed (by rw [rules]; exact Nat.lt_of_lt_of_le late later)
  | kept begun keeps idle =>
      rcases handled_keeps (step_handled step) begun keeps idle with keeps' | late
      · rcases step_idle reachable step keeps idle with idle' | late
        · exact .kept (Nat.le_trans begun later) keeps' idle'
        · exact .lapsed (by rw [rules]; exact Nat.lt_of_lt_of_le late later)
      · exact .lapsed (by rw [rules]; exact Nat.lt_of_lt_of_le late later)

theorem became_lasts (reachable : Reachable v first w) (became : Became v w w') (lasts : w.Lasts token s since) :
    w'.Lasts token s since := by
  induction became with
  | still => exact lasts
  | later before step ih => exact step_lasts (became_reachable reachable before) step ih

/--
A token that has just been made known is answered for as long as it is kept, whatever goes on meanwhile, unless somebody
is about to forget it who was told before that it had expired.
-/
theorem kept_unless_overtaken (reachable : Reachable v first w) (became : Became v w w')
    (held : w.engine.captures.pinned? token = some ⟨s, w.engine.now⟩)
    (idle : ∀ f ∈ w.flights, ¬ f.IsForgetting token)
    (soon : w'.engine.now ≤ w.engine.now + w'.engine.captures.rules.retention.nanos) :
    ∃ s', w'.engine.captures.resolve? w'.engine.now token = some s' ∧
      (s' = s ∨ s' ∈ w'.history.named ∧ s'.token = token) := by
  have lasts := became_lasts reachable became (.kept (Nat.le_refl _) ⟨_, held, Nat.le_refl _, .inl rfl⟩ idle)
  cases lasts with
  | lapsed late => exact absurd soon (Nat.not_le.mpr late)
  | kept begun keeps idle =>
      obtain ⟨d, there, late, whose⟩ := keeps
      refine ⟨d.named, Captures.resolve_some.mpr ⟨d, there, ?_, rfl⟩, whose⟩
      exact Nat.le_trans soon (Nat.add_le_add_right late _)

end Kept

section Counted

variable {v : Service} {first : Registry} {w w' : World}

theorem sheds_size {c c' : Captures} {now : Instant} (sheds : c.Sheds c' now) : c'.pins.size ≤ c.pins.size := by
  have kept : c'.pins.keys ⊆ c.pins.keys := by
    intro token member
    obtain ⟨d, there⟩ := Table.mem_keys.mp member
    rcases sheds.pins token with same | ⟨gone, _⟩
    · exact Table.mem_keys.mpr ⟨d, same.symm.trans there⟩
    · cases gone.symm.trans there
  simpa [Table.keys, Table.size] using (List.subperm_of_subset (Table.keys_nodup c'.pins) kept).length_le

-- The tokens become more by those at most that are named.
theorem handled_size (handled : Handled w w') :
    w'.engine.captures.pins.size + w.history.named.length ≤
      w.engine.captures.pins.size + w'.history.named.length := by
  cases handled with
  | sheds sheds named =>
      have fewer := sheds_size sheds
      rw [named]
      omega
  | names s rules pins named =>
      have more := Table.size_insert_le w.engine.captures.pins s.token ⟨s, w.engine.now⟩
      rw [pins, named, List.length_append, List.length_singleton]
      omega
  | forgets there forgetting captures named =>
      rw [captures, named]
      exact Nat.add_le_add_right (List.length_filter_le ..) _

theorem became_size (became : Became v w w') :
    w'.engine.captures.pins.size + w.history.named.length ≤
      w.engine.captures.pins.size + w'.history.named.length := by
  induction became with
  | still => exact Nat.le_refl _
  | later before step ih =>
      have handled := handled_size (step_handled step)
      omega

-- What a request was answered at once, the engine answered at some moment before.
theorem answered_then (reachable : Reachable v first w) {i : Nat} {f : Flight} {early late : Transcript} {a : Act}
    {answer : a.Answer} (there : w.flights[i]? = some f) (said : f.transcript = early ++ ⟨.act a, answer⟩ :: late) :
    ∃ y f', Reachable v first y ∧ Became v y w ∧ y.flights[i]? = some f' ∧ f'.transcript = early ∧
      answer = (y.engine.perform a).2 := by
  induction reachable generalizing f late with
  | launched => cases there
  | @further v first w w' before step ih =>
      have further : ∀ {f : Flight} {late : Transcript}, w.flights[i]? = some f →
          f.transcript = early ++ ⟨.act a, answer⟩ :: late → ∃ y f', Reachable v first y ∧ Became v y w' ∧
            y.flights[i]? = some f' ∧ f'.transcript = early ∧ answer = (y.engine.perform a).2 := by
        intro f late place said
        obtain ⟨y, f', reached, became, found⟩ := ih place said
        exact ⟨y, f', reached, .later became step, found⟩
      obtain ⟨g, place, steps⟩ := step_flight step there (by simp [said])
      cases steps with
      | still => exact further place said
      | dropped => exact further place said
      | @further x rest utters =>
          have grown : g.transcript ++ [x] = early ++ ⟨.act a, answer⟩ :: late := said
          rcases List.eq_nil_or_concat late with rfl | ⟨more, last, rfl⟩
          · obtain ⟨same, now⟩ := List.append_inj' grown rfl
            exact ⟨w, g, before, .later (.still w) step, place, same, uttered_act utters (List.cons.inj now).1⟩
          · have earlier : g.transcript ++ [x] = (early ++ ⟨.act a, answer⟩ :: more) ++ [last] := by simpa using grown
            exact further place (List.append_inj' earlier rfl).1

theorem leads_act {α : Type} {a : Act} {next : a.Answer → Serve α} {t : Transcript} {value : α}
    (leads : Leads (act a >>= next) t (.done value)) :
    ∃ answer later, t = ⟨.act a, answer⟩ :: later ∧ Leads (next answer) later (.done value) := by
  cases leads with
  | further later => exact ⟨_, _, rfl, later⟩

-- A purge counts the tokens, drops some, and counts them again.
theorem purge_said (reachable : Reachable v first w) {t : Transcript} {slots : Nat} {dropped : Int}
    (answered : w.Answered .purge t (slots, dropped)) : ∃ before after : Nat,
      t = [⟨.act .purgeCache, slots⟩, ⟨.act .pinCount, before⟩, ⟨.act .dropPins, ()⟩, ⟨.act .pinCount, after⟩] ∧
      dropped = before - after := by
  have leads : Leads Service.purge t (.done (slots, dropped)) := answered_leads reachable answered
  obtain ⟨idle, _, rfl, counts⟩ := leads_act leads
  obtain ⟨before, _, rfl, drops⟩ := leads_act counts
  obtain ⟨_, _, rfl, recounts⟩ := leads_act drops
  obtain ⟨after, _, rfl, ends⟩ := leads_act recounts
  obtain ⟨rfl, told⟩ := leads_done ends
  cases told
  exact ⟨before, after, rfl, rfl⟩

/--
A purge tells of no more tokens than there were when it counted them first, and of fewer than none by those at most
that were named until it counted them again.
-/
theorem purges_counted (reachable : Reachable v first w) {t : Transcript} {slots : Nat} {dropped : Int}
    (answered : w.Answered .purge t (slots, dropped)) :
    ∃ x y, Reachable v first x ∧ Became v x y ∧ Became v y w ∧
      dropped = (x.engine.captures.pins.size : Int) - y.engine.captures.pins.size ∧
      dropped ≤ x.engine.captures.pins.size ∧
      x.history.named.length ≤ y.history.named.length + dropped := by
  obtain ⟨before, after, rfl, rfl⟩ := purge_said reachable answered
  obtain ⟨caller, gone, member⟩ := answered
  obtain ⟨i, there⟩ := List.getElem?_of_mem member
  have last : [⟨.act .purgeCache, slots⟩, ⟨.act .pinCount, before⟩, ⟨.act .dropPins, ()⟩, ⟨.act .pinCount, after⟩] =
      ([⟨.act .purgeCache, slots⟩, ⟨.act .pinCount, before⟩, ⟨.act .dropPins, ()⟩] : Transcript) ++
        ⟨.act .pinCount, after⟩ :: [] := rfl
  obtain ⟨y, f, reached, becameW, place, said, rfl⟩ := answered_then reachable there last
  have early : f.transcript = [⟨.act .purgeCache, slots⟩] ++ ⟨.act .pinCount, before⟩ :: [⟨.act .dropPins, ()⟩] := said
  obtain ⟨x, _, begun, becameY, _, _, rfl⟩ := answered_then reached place early
  refine ⟨x, y, begun, becameY, becameW, rfl, ?_, ?_⟩
  · exact Int.sub_le_self _ (Int.natCast_nonneg _)
  · have grown := became_size becameY
    simp only [Engine.perform]
    omega

end Counted

theorem play_became {v : Service} {w w' : World} (became : Became v w w') (moves : List Move) :
    Became v w (w'.play v moves) := by
  induction moves generalizing w' with
  | nil => exact became
  | cons m rest ih =>
      refine ih ?_
      rcases move_steps (v := v) (w := w') m with same | step
      · rwa [same]
      · exact .later became step

namespace Sample

/-! A purge that has counted the tokens when a fetch enters one, and later a look-up that has been told that this token
has expired when another fetch enters it anew. -/

@[irreducible] def anew : World :=
  played {} morning
    (.arrive (.predict "SCE" 24 {}) :: List.replicate 8 (.go 0) ++
      [.arrive .purge, .go 1, .go 1, .fetched 0, .recorded 0, .go 1, .go 1, .pass 3600000000001 morning,
        .arrive (.predict "SCE" 24 pinned), .go 2, .go 2, .arrive (.predict "SCE" 24 {})] ++
      List.replicate 8 (.go 3) ++ [.fetched 1])

@[irreducible] def forgotten : World := anew.play service [.go 2]

theorem anew_evaluated :
    anew.answers .purge (· = (0, -1)) = true ∧
    anew.engine.captures.pinned? token = some ⟨.of (snapshot morning), anew.engine.now⟩ ∧
    forgotten.engine.now = anew.engine.now ∧ forgotten.engine.captures.resolve? forgotten.engine.now token = none := by
  decide +kernel

theorem anew_reachable : Reachable service (registry 1) anew := by
  obtain ⟨_, _, _, _, valid, _⟩ := evaluated
  unfold anew
  exact played_reachable valid morning _

-- One token less than none is told of.
theorem purge_overdrawn : ∃ t x y, anew.Answered .purge t (0, -1) ∧ Became service x y ∧ Became service y anew ∧
    (x.engine.captures.pins.size : Int) - y.engine.captures.pins.size = -1 := by
  obtain ⟨answers, _⟩ := anew_evaluated
  obtain ⟨t, value, answered, same⟩ := answers_answered answers
  cases of_decide_eq_true same
  obtain ⟨x, y, _, becameY, becameW, difference, _⟩ := purges_counted anew_reachable answered
  exact ⟨t, x, y, answered, becameY, becameW, difference.symm⟩

-- The token has been made known just now, and cannot be asked for any more.
theorem token_forgotten : ¬ ∀ w w' : World, Reachable service (registry 1) w → Became service w w' → ∀ token s,
    w.engine.captures.pinned? token = some ⟨s, w.engine.now⟩ →
    w'.engine.now ≤ w.engine.now + w'.engine.captures.rules.retention.nanos →
    ∃ s', w'.engine.captures.resolve? w'.engine.now token = some s' := by
  intro kept
  obtain ⟨_, held, now, gone⟩ := anew_evaluated
  have became : Became service anew forgotten := by
    unfold forgotten
    exact play_became (.still anew) _
  obtain ⟨s', found⟩ := kept anew forgotten anew_reachable became token _ held (now ▸ Nat.le_add_right _ _)
  cases gone.symm.trans found

end Sample

end GridLoad
