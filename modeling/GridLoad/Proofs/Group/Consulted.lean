import GridLoad.Proofs.Group.Gathered
import GridLoad.Sample

/-!
How a virtual zone's constituents are asked. Whatever answers come, each is asked at most once, in declared order, and
nobody after the first answer that is no forecast or not the one asked for. The virtual zone has a forecast if all
answers fit, which is then their sum, and otherwise fails with the first that does not.
-/

set_option autoImplicit false

namespace GridLoad

open GridLoad.Time (Timestamp)

-- What is answered to each question, which may depend on the questions before it.
abbrev Replies := List String → String → Except Failure Prediction

-- Asks a constituent and notes that it was asked.
def Replies.ask (answers : Replies) (zone : String) : StateM (List String) (Outcome Prediction) :=
  fun asked => ((answers asked zone).mapError .failed, asked ++ [zone])

section

variable (horizon : Nat) (token : Token)

-- The forecast of this constituent, for the snapshot and horizon that were asked for.
structure Prediction.Fits (m : Member) (p : Prediction) : Prop where
  zone : p.zone = m.zone
  token : p.token = token
  horizon : p.horizon = horizon

-- What is wrong with a constituent's answer, and the failure that it makes of the whole.
inductive Offends (group : Group) (m : Member) : Except Failure Prediction → Failure → Prop
  | failed (failure : Failure) : Offends group m (.error failure) (.constituent group.id m.zone failure)
  | foreign {p : Prediction} (zone : p.zone ≠ m.zone) :
      Offends group m (.ok p)
        (.constituent group.id m.zone (.corruptModel m.zone ("received a prediction for zone " ++ p.zone)))
  | mismatched {p : Prediction} (zone : p.zone = m.zone) (aimed : p.token ≠ token ∨ p.horizon ≠ horizon) :
      Offends group m (.ok p) (.snapshotMismatch group.id m.zone (token ++ "@" ++ toString horizon ++ "h")
        (p.token ++ "@" ++ toString p.horizon ++ "h"))

-- Constituents that each answer with what was asked for, after those that were asked before.
inductive Heard (answers : Replies) : List String → List Member → List Prediction → Prop
  | nil (asked : List String) : Heard answers asked [] []
  | cons {asked : List String} {m : Member} {p : Prediction} {rest : List Member} {ps : List Prediction}
      (answered : answers asked m.zone = .ok p) (fits : p.Fits horizon token m)
      (others : Heard answers (asked ++ [m.zone]) rest ps) : Heard answers asked (m :: rest) (p :: ps)

variable {horizon token} {group : Group} {answers : Replies} {asked : List String} {m : Member} {members : List Member}
  {p : Prediction} {ps : List Prediction} {answer : Except Failure Prediction} {failure : Failure}

theorem fits_or_offends (horizon : Nat) (token : Token) (group : Group) (m : Member)
    (answer : Except Failure Prediction) :
    (∃ p, answer = .ok p ∧ p.Fits horizon token m) ∨ ∃ failure, Offends horizon token group m answer failure := by
  cases answer with
  | error failure => exact .inr ⟨_, .failed failure⟩
  | ok p =>
      by_cases zone : p.zone = m.zone
      · by_cases aimed : p.token ≠ token ∨ p.horizon ≠ horizon
        · exact .inr ⟨_, .mismatched zone aimed⟩
        · obtain ⟨named, hours⟩ := not_or.mp aimed
          exact .inl ⟨p, rfl, zone, not_not.mp named, not_not.mp hours⟩
      · exact .inr ⟨_, .foreign zone⟩

theorem offence_named (offends : Offends horizon token group m answer failure) :
    failure.failedConstituent = some m.zone := by
  cases offends <;> rfl

theorem check_member_refuses (offends : Offends horizon token group m (.ok p) failure) :
    checkMember group horizon token m p = .error failure := by
  cases offends with
  | foreign zone => simp only [checkMember, if_pos zone]
  | mismatched zone aimed => simp only [checkMember, ne_eq, zone, not_true_eq_false, if_false, if_pos aimed, aim]

-- Either everybody is heard, or somebody is the first not to be.
theorem heard_or_first (horizon : Nat) (token : Token) (group : Group) (answers : Replies) (asked : List String)
    (members : List Member) :
    (∃ ps, Heard horizon token answers asked members ps) ∨
      ∃ before m after ps failure, members = before ++ m :: after ∧ Heard horizon token answers asked before ps ∧
        Offends horizon token group m (answers (asked ++ before.map (·.zone)) m.zone) failure := by
  induction members generalizing asked with
  | nil => exact .inl ⟨[], .nil asked⟩
  | cons m rest ih =>
      rcases fits_or_offends horizon token group m (answers asked m.zone) with
        ⟨p, answered, fits⟩ | ⟨failure, offends⟩
      · rcases ih (asked ++ [m.zone]) with ⟨ps, others⟩ | ⟨before, n, after, ps, failure, rfl, others, offends⟩
        · exact .inl ⟨p :: ps, .cons answered fits others⟩
        · refine .inr ⟨m :: before, n, after, p :: ps, failure, rfl, .cons answered fits others, ?_⟩
          simpa only [List.map_cons, List.append_assoc, List.cons_append, List.nil_append] using offends
      · exact .inr ⟨[], m, rest, [], failure, rfl, .nil asked, by simpa using offends⟩

-- One constituent is asked, and the others only if its answer fits.
theorem gather_asks (group : Group) (rest : List Member) :
    gather (m := StateM (List String)) answers.ask group horizon token (m :: rest) asked =
      match answers asked m.zone with
      | .error failure =>
          (⟨fail (.constituent group.id m.zone failure),
            [.memberFailed group.id m.zone horizon token failure.kind failure.message]⟩, asked ++ [m.zone])
      | .ok p =>
          match checkMember group horizon token m p with
          | .error failure => (⟨fail failure, []⟩, asked ++ [m.zone])
          | .ok () =>
              let others := gather (m := StateM (List String)) answers.ask group horizon token rest (asked ++ [m.zone])
              ({ others.1 with outcome := others.1.outcome.map ((p, m.weight) :: ·) }, others.2) := by
  simp only [gather, bind, StateT.bind, Replies.ask]
  cases answers asked m.zone with
  | error failure => rfl
  | ok p =>
      simp only [Except.mapError]
      cases checkMember group horizon token m p <;> rfl

-- Once some were heard, the others are asked, and what comes of that has the answers heard before it.
theorem gather_after (group : Group) {before : List Member} (heard : Heard horizon token answers asked before ps)
    (rest : List Member) :
    gather (m := StateM (List String)) answers.ask group horizon token (before ++ rest) asked =
      let others := gather (m := StateM (List String)) answers.ask group horizon token rest
        (asked ++ before.map (·.zone))
      ({ others.1 with outcome := others.1.outcome.map (ps.zip (before.map (·.weight)) ++ ·) }, others.2) := by
  induction heard with
  | nil asked =>
      simp only [List.map_nil, List.append_nil, List.nil_append, List.zip_nil_left]
      generalize gather (m := StateM (List String)) answers.ask group horizon token rest asked = others
      obtain ⟨⟨outcome, events⟩, later⟩ := others
      cases outcome <;> rfl
  | @cons asked n p _ _ answered fits _ ih =>
      have accepted : checkMember group horizon token n p = .ok () :=
        check_member_accepts fits.zone fits.token fits.horizon
      simp only [List.cons_append, gather_asks, answered, accepted, ih, List.map_cons, List.append_assoc,
        List.nil_append, List.zip_cons_cons]
      generalize gather (m := StateM (List String)) answers.ask group horizon token rest _ = others
      obtain ⟨⟨outcome, events⟩, later⟩ := others
      cases outcome <;> rfl

theorem gather_heard (heard : Heard horizon token answers asked members ps) :
    gather (m := StateM (List String)) answers.ask group horizon token members asked =
      (⟨.ok (ps.zip (members.map (·.weight))), []⟩, asked ++ members.map (·.zone)) := by
  have all := gather_after group heard []
  rw [List.append_nil] at all
  rw [all]
  change (Gathered.mk (.ok (ps.zip _ ++ [])) [], _) = _
  rw [List.append_nil]
  rfl

theorem gather_refused (offends : Offends horizon token group m (answers asked m.zone) failure) (rest : List Member) :
    ∃ events, gather (m := StateM (List String)) answers.ask group horizon token (m :: rest) asked =
      (⟨fail failure, events⟩, asked ++ [m.zone]) := by
  rw [gather_asks]
  cases answered : answers asked m.zone with
  | error cause =>
      rw [answered] at offends
      cases offends
      exact ⟨_, rfl⟩
  | ok p =>
      rw [answered] at offends
      simp only [check_member_refuses offends]
      exact ⟨[], rfl⟩

theorem gather_offended (group : Group) {before : List Member} (heard : Heard horizon token answers asked before ps)
    (after : List Member)
    (offends : Offends horizon token group m (answers (asked ++ before.map (·.zone)) m.zone) failure) :
    ∃ events, gather (m := StateM (List String)) answers.ask group horizon token (before ++ m :: after) asked =
      (⟨fail failure, events⟩, asked ++ (before ++ [m]).map (·.zone)) := by
  obtain ⟨events, refused⟩ := gather_refused offends after
  refine ⟨events, ?_⟩
  rw [gather_after group heard, refused, List.map_append, List.append_assoc]
  rfl

variable {combination : Combination} {now : Timestamp}

-- What asking the constituents of a virtual zone comes to, with the questions that were put.
inductive Verdict (answers : Replies) (combination : Combination) (group : Group) (horizon : Nat) (token : Token)
    (now : Timestamp) : Outcome Prediction → List String → Prop
  | sum {ps : List Prediction} (heard : Heard horizon token answers [] group.members ps) :
      Verdict answers combination group horizon token now
        (.ok (aggregate group.id horizon token combination (ps.zip (group.members.map (·.weight))) now)) group.memberIds
  | refused {before after : List Member} {m : Member} {ps : List Prediction} {failure : Failure}
      (split : group.members = before ++ m :: after) (heard : Heard horizon token answers [] before ps)
      (offends : Offends horizon token group m (answers (before.map (·.zone)) m.zone) failure) :
      Verdict answers combination group horizon token now (fail failure) ((before ++ [m]).map (·.zone))

-- A virtual zone's forecast, with the zones that were asked for it.
def consult (answers : Replies) (combination : Combination) (group : Group) (horizon : Nat) (token : Token)
    (now : Timestamp) : Outcome Prediction × List String :=
  let (answer, asked) := groupForecast (m := StateM (List String)) combination answers.ask group horizon token now []
  (answer.1, asked)

theorem consult_gathered {gathered : Gathered} {asked : List String}
    (done : gather (m := StateM (List String)) answers.ask group horizon token group.members [] = (gathered, asked)) :
    consult answers combination group horizon token now =
      (sumUp combination group horizon token now gathered.outcome, asked) := by
  simp only [consult, groupForecast, bind, StateT.bind, done, sumUp]
  cases gathered.outcome <;> rfl

theorem verdict_given {out : Outcome Prediction} {asked : List String}
    (verdict : Verdict answers combination group horizon token now out asked) :
    consult answers combination group horizon token now = (out, asked) := by
  cases verdict with
  | sum heard =>
      rw [consult_gathered (gather_heard heard), List.nil_append]
      rfl
  | refused split heard offends =>
      obtain ⟨events, done⟩ := gather_offended group heard _ offends
      rw [← split] at done
      rw [consult_gathered done, List.nil_append]
      rfl

theorem verdict_exists (answers : Replies) (combination : Combination) (group : Group) (horizon : Nat) (token : Token)
    (now : Timestamp) : ∃ out asked, Verdict answers combination group horizon token now out asked := by
  rcases heard_or_first horizon token group answers [] group.members with
    ⟨ps, heard⟩ | ⟨before, m, after, ps, failure, split, heard, offends⟩
  · exact ⟨_, _, .sum heard⟩
  · exact ⟨_, _, .refused split heard (by simpa using offends)⟩

theorem consult_verdict {out : Outcome Prediction} {asked : List String} :
    consult answers combination group horizon token now = (out, asked) ↔
      Verdict answers combination group horizon token now out asked := by
  refine ⟨fun done => ?_, verdict_given⟩
  obtain ⟨out', asked', verdict⟩ := verdict_exists answers combination group horizon token now
  cases done.symm.trans (verdict_given verdict)
  exact verdict

theorem granted_heard {asked : List String}
    (verdict : Verdict answers combination group horizon token now (.ok p) asked) :
    (∃ ps, Heard horizon token answers [] group.members ps) ∧ asked = group.memberIds := by
  cases verdict with
  | sum heard => exact ⟨⟨_, heard⟩, rfl⟩

-- A refusal names the constituent that was asked last.
theorem refusal_named {asked : List String}
    (verdict : Verdict answers combination group horizon token now (fail failure) asked) :
    ∃ m ∈ group.members, failure.failedConstituent = some m.zone ∧ asked.getLast? = some m.zone := by
  generalize out : (fail failure : Outcome Prediction) = result at verdict
  cases verdict with
  | sum heard => cases out
  | @refused before after m ps failure split heard offends =>
      cases out
      exact ⟨m, by simp [split], offence_named offends, by simp⟩

theorem asked_in_order {out : Outcome Prediction} {asked : List String}
    (verdict : Verdict answers combination group horizon token now out asked) : asked <+: group.memberIds := by
  cases verdict with
  | sum heard => exact List.prefix_rfl
  | @refused before after m ps failure split heard offends =>
      have first : before ++ [m] <+: group.members := ⟨after, by simp [split]⟩
      exact first.map _

/--
Whatever the constituents answer, a virtual zone has a forecast if and only if each gives its own for the snapshot and
horizon asked for, and then its forecast is the aggregate of these. Otherwise it fails with what is wrong with the first
answer that does not fit, and names that constituent. Each constituent is asked once, in declared order, and none after
the first whose answer does not fit.
-/
theorem all_or_nothing (answers : Replies) (combination : Combination) (group : Group) (horizon : Nat) (token : Token)
    (now : Timestamp) :
    let result := consult answers combination group horizon token now
    (∀ out asked, result = (out, asked) ↔ Verdict answers combination group horizon token now out asked) ∧
    ((∃ p, result.1 = .ok p) ↔ ∃ ps, Heard horizon token answers [] group.members ps) ∧
    (∀ p, result.1 = .ok p → result.2 = group.memberIds) ∧
    (∀ failure, result.1 = fail failure →
      ∃ m ∈ group.members, failure.failedConstituent = some m.zone ∧ result.2.getLast? = some m.zone) ∧
    result.2 <+: group.memberIds := by
  refine ⟨fun _ _ => consult_verdict, ⟨?_, ?_⟩, ?_⟩
  · rintro ⟨p, answered⟩
    exact (granted_heard (consult_verdict.mp (Prod.ext answered rfl))).1
  · rintro ⟨ps, heard⟩
    exact ⟨_, congrArg Prod.fst (verdict_given (.sum heard))⟩
  · generalize done : consult answers combination group horizon token now = result
    obtain ⟨out, asked⟩ := result
    have verdict := consult_verdict.mp done
    refine ⟨?_, ?_, asked_in_order verdict⟩
    · rintro p rfl
      exact (granted_heard verdict).2
    · rintro failure rfl
      exact refusal_named verdict

end

namespace Sample

-- Everybody answers with SCE's forecast.
def impostor : Replies := fun _ _ => .ok (prediction "SCE" 24 19631 300 "tuesday" ⟨1720533600, 0⟩)

theorem impostor_refused :
    consult impostor .independent group 24 "tuesday" ⟨1720533600, 0⟩ =
      (fail (.constituent "LA_METRO" "SP15" (.corruptModel "SP15" "received a prediction for zone SCE")),
        ["SCE", "SP15"]) ∧
    ∃ m ∈ group.members, m.zone = "SP15" := by
  obtain ⟨settled, _, _, named, _⟩ := all_or_nothing impostor .independent group 24 "tuesday" ⟨1720533600, 0⟩
  have split : group.members = [⟨"SCE", 0.79⟩] ++ ⟨"SP15", 0.21⟩ :: [] := rfl
  have refused := (settled _ _).mpr (.refused split (.cons rfl ⟨rfl, rfl, rfl⟩ (.nil _)) (.foreign (by decide)))
  obtain ⟨m, member, zone, _⟩ := named _ (congrArg Prod.fst refused)
  exact ⟨refused, m, member, (Option.some.inj zone).symm⟩

end Sample

end GridLoad
