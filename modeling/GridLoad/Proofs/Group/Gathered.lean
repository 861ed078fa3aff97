import GridLoad.Proofs.Forecast.Undated

set_option autoImplicit false

namespace GridLoad

open GridLoad.Time (Timestamp)

variable {group : Group} {horizon : Nat} {token : Token} {combination : Combination} {now later : Timestamp}

-- The same parts but for their times, or the same end.
inductive SameGathering : Outcome (List (Prediction × Float)) → Outcome (List (Prediction × Float)) → Prop
  | parts {parts others : List (Prediction × Float)} (same : SameParts parts others) :
      SameGathering (.ok parts) (.ok others)
  | halt (halt : Halt) : SameGathering (.error halt) (.error halt)

theorem check_member_undated (group : Group) (horizon : Nat) (token : Token) (m : Member) {p q : Prediction}
    (same : p.undated = q.undated) : checkMember group horizon token m p = checkMember group horizon token m q := by
  obtain ⟨zone, hours, named⟩ := Prediction.undated_aim same
  simp only [checkMember, zone, hours, named]

theorem check_member_accepts {m : Member} {p : Prediction} (zone : p.zone = m.zone) (named : p.token = token)
    (hours : p.horizon = horizon) : checkMember group horizon token m p = .ok () := by
  simp [checkMember, zone, named, hours]

variable {ask ask' : String → Outcome Prediction}

theorem gather_alone_ok {m : Member} {rest : List Member} {p : Prediction} (asked : ask m.zone = .ok p)
    (fit : checkMember group horizon token m p = .ok ()) :
    (gather (m := Id) ask group horizon token (m :: rest)).outcome =
      (gather (m := Id) ask group horizon token rest).outcome.map ((p, m.weight) :: ·) := by
  simp [gather, asked, fit, bind, pure]

theorem gather_alone_failed {m : Member} {rest : List Member} {failure : Failure}
    (asked : ask m.zone = fail failure) :
    (gather (m := Id) ask group horizon token (m :: rest)).outcome =
      fail (.constituent group.id m.zone failure) := by
  simp [gather, asked, fail, bind, pure]

theorem gather_alone_halted {m : Member} {rest : List Member} {halt : Halt} (asked : ask m.zone = .error halt)
    (other : ∀ failure, halt ≠ .failed failure) :
    (gather (m := Id) ask group horizon token (m :: rest)).outcome = .error halt := by
  cases halt with
  | failed failure => exact absurd rfl (other failure)
  | pastCalendar => simp [gather, asked, bind, pure]
  | outOfTime => simp [gather, asked, bind, pure]

theorem gather_alone_unfit {m : Member} {rest : List Member} {p : Prediction} {failure : Failure}
    (asked : ask m.zone = .ok p) (unfit : checkMember group horizon token m p = .error failure) :
    (gather (m := Id) ask group horizon token (m :: rest)).outcome = fail failure := by
  simp [gather, asked, unfit, bind, pure]

theorem same_gathering_map {a b : Outcome (List (Prediction × Float))} {p q : Prediction} {weight : Float}
    (same : SameGathering a b) (first : p.undated = q.undated) :
    SameGathering (a.map ((p, weight) :: ·)) (b.map ((q, weight) :: ·)) := by
  cases same with
  | parts same => exact .parts (.cons ⟨first, rfl⟩ same)
  | halt halt => exact .halt halt

theorem gather_alone_agree {members : List Member} (agree : ∀ m ∈ members, Agree (ask m.zone) (ask' m.zone)) :
    SameGathering (gather (m := Id) ask group horizon token members).outcome
      (gather (m := Id) ask' group horizon token members).outcome := by
  induction members with
  | nil => exact .parts .nil
  | cons m rest ih =>
      have first : Agree (ask m.zone) (ask' m.zone) := agree m (by simp)
      have later := ih fun m member => agree m (by simp [member])
      cases right : ask' m.zone with
      | error halt =>
          have left := agree_error_iff.mp (right ▸ first)
          cases halt with
          | failed failure =>
              rw [gather_alone_failed left, gather_alone_failed right]
              exact .halt _
          | pastCalendar =>
              rw [gather_alone_halted left (by simp), gather_alone_halted right (by simp)]
              exact .halt _
          | outOfTime =>
              rw [gather_alone_halted left (by simp), gather_alone_halted right (by simp)]
              exact .halt _
      | ok q =>
          obtain ⟨p, left, same⟩ := agree_ok_iff.mp (right ▸ first)
          have fits := check_member_undated group horizon token m same
          cases fit : checkMember group horizon token m q with
          | error failure =>
              rw [gather_alone_unfit left (fits.trans fit), gather_alone_unfit right fit]
              exact .halt _
          | ok _ =>
              rw [gather_alone_ok left (fits.trans fit), gather_alone_ok right fit]
              exact same_gathering_map later same

-- What was gathered is what each constituent gave, with its weight.
theorem gather_alone_parts {members : List Member} {parts : List (Prediction × Float)}
    (gathered : (gather (m := Id) ask group horizon token members).outcome = .ok parts) :
    List.Forall₂ (fun m part => ask m.zone = .ok part.1 ∧ part.2 = m.weight) members parts := by
  induction members generalizing parts with
  | nil =>
      cases gathered
      exact .nil
  | cons m rest ih =>
      cases asked : ask m.zone with
      | error halt =>
          cases halt with
          | failed failure =>
              rw [gather_alone_failed asked] at gathered
              cases gathered
          | pastCalendar =>
              rw [gather_alone_halted asked (by simp)] at gathered
              cases gathered
          | outOfTime =>
              rw [gather_alone_halted asked (by simp)] at gathered
              cases gathered
      | ok p =>
          cases fit : checkMember group horizon token m p with
          | error failure =>
              rw [gather_alone_unfit asked fit] at gathered
              cases gathered
          | ok _ =>
              rw [gather_alone_ok asked fit] at gathered
              cases others : (gather (m := Id) ask group horizon token rest).outcome with
              | error halt =>
                  rw [others] at gathered
                  cases gathered
              | ok tail =>
                  rw [others] at gathered
                  cases gathered
                  exact .cons ⟨asked, rfl⟩ (ih others)

-- What a virtual zone's forecast is once its constituents were asked.
def sumUp (combination : Combination) (group : Group) (horizon : Nat) (token : Token) (now : Timestamp)
    (gathered : Outcome (List (Prediction × Float))) : Outcome Prediction :=
  gathered.map fun parts => aggregate group.id horizon token combination parts now

theorem group_forecast_alone :
    (groupForecast (m := Id) combination ask group horizon token now).1 =
      sumUp combination group horizon token now (gather (m := Id) ask group horizon token group.members).outcome := by
  simp only [groupForecast, bind, pure, sumUp]
  cases (gather (m := Id) ask group horizon token group.members).outcome <;> rfl

theorem sum_up_agree {a b : Outcome (List (Prediction × Float))} (same : SameGathering a b) :
    Agree (sumUp combination group horizon token now a) (sumUp combination group horizon token later b) := by
  cases same with
  | parts same => exact congrArg Except.ok (aggregate_undated same)
  | halt halt => rfl

-- What the constituents came to when each was asked by itself, in declared order: all gave something, or one was the
-- first that failed.
inductive PartsEnded (ask : String → Outcome Prediction) (group : Group) (horizon : Nat) (token : Token)
    (members : List Member) (outs : List (Outcome Prediction)) : Prop
  | all (ps : List Prediction) (parts : List (Prediction × Float)) (given : outs = ps.map .ok)
      (gathered : (gather (m := Id) ask group horizon token members).outcome = .ok parts)
      (same : SameParts parts (ps.zip (members.map (·.weight))))
      (many : ps.length = members.length) : PartsEnded ask group horizon token members outs
  | first (ps : List Prediction) (cause : Failure) (rest : List (Outcome Prediction)) (m : Member)
      (given : outs = ps.map .ok ++ fail cause :: rest) (place : members[ps.length]? = some m)
      (gathered : (gather (m := Id) ask group horizon token members).outcome =
        fail (.constituent group.id m.zone cause)) : PartsEnded ask group horizon token members outs

structure Alike (ask : String → Outcome Prediction) (group : Group) (horizon : Nat) (token : Token) (m : Member)
    (out : Outcome Prediction) : Prop where
  agree : Agree out (ask m.zone)
  plain : ∀ halt, out = .error halt → ∃ f, halt = .failed f
  fits : ∀ p, ask m.zone = .ok p → checkMember group horizon token m p = .ok ()

theorem gather_ended {members : List Member} {outs : List (Outcome Prediction)}
    (alike : List.Forall₂ (Alike ask group horizon token) members outs) :
    PartsEnded ask group horizon token members outs := by
  induction alike with
  | nil => exact .all [] [] rfl rfl .nil rfl
  | @cons m out members outs here _ ih =>
      cases out with
      | error halt =>
          obtain ⟨cause, rfl⟩ := here.plain halt rfl
          have failed : ask m.zone = fail cause := agree_error_iff.mp (agree_symm here.agree)
          exact .first [] cause outs m rfl rfl (gather_alone_failed failed)
      | ok p =>
          obtain ⟨q, asked, same⟩ := agree_ok_iff.mp (agree_symm here.agree)
          have further : (gather (m := Id) ask group horizon token (m :: members)).outcome =
              (gather (m := Id) ask group horizon token members).outcome.map ((q, m.weight) :: ·) :=
            gather_alone_ok asked (here.fits q asked)
          cases ih with
          | all ps parts given gathered others many =>
              rw [gathered] at further
              refine .all (p :: ps) ((q, m.weight) :: parts) (by rw [given]; rfl) further ?_ (by simp [many])
              exact .cons ⟨same, rfl⟩ others
          | first ps cause rest m' given place gathered =>
              rw [gathered] at further
              exact .first (p :: ps) cause rest m' (by rw [given]; rfl) place further

end GridLoad
