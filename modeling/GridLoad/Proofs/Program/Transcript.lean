import GridLoad.Program

set_option autoImplicit false

namespace GridLoad

variable {Question : Type} {Answer : Question → Type} {α β : Type}

structure Exchange (Answer : Question → Type) where
  question : Question
  answer : Answer question

-- What surroundings are trusted for in each answer, and what a program keeps to in each question, given the
-- exchanges before it.
structure Conduct (Answer : Question → Type) where
  rely : (q : Question) → Answer q → Prop
  guarantee : List (Exchange Answer) → Question → Prop

namespace Program

inductive Leads : Program Answer α → List (Exchange Answer) → Program Answer α → Prop
  | here (p : Program Answer α) : Leads p [] p
  | further {q : Question} {next : Answer q → Program Answer α} {answer : Answer q}
      {t : List (Exchange Answer)} {rest : Program Answer α} (later : Leads (next answer) t rest) :
      Leads (.ask q next) (⟨q, answer⟩ :: t) rest

theorem leads_append {p middle rest : Program Answer α} {t u : List (Exchange Answer)}
    (first : Leads p t middle) (second : Leads middle u rest) : Leads p (t ++ u) rest := by
  induction first with
  | here => exact second
  | further _ ih => exact .further (ih second)

theorem leads_snoc {p : Program Answer α} {t : List (Exchange Answer)} {q : Question}
    {next : Answer q → Program Answer α} (before : Leads p t (.ask q next)) (answer : Answer q) :
    Leads p (t ++ [⟨q, answer⟩]) (next answer) :=
  leads_append before (.further (.here _))

theorem leads_done {value : α} {t : List (Exchange Answer)} {rest : Program Answer α}
    (leads : Leads (.done value) t rest) : t = [] ∧ rest = .done value := by
  cases leads
  exact ⟨rfl, rfl⟩

-- A program in two parts has come to its end through the end of the first.
theorem leads_bind {p : Program Answer β} {f : β → Program Answer α} {t : List (Exchange Answer)} {value : α}
    (leads : Leads (p >>= f) t (.done value)) : ∃ own more middle,
      t = own ++ more ∧ Leads p own (.done middle) ∧ Leads (f middle) more (.done value) := by
  induction p generalizing t with
  | done middle => exact ⟨[], t, middle, rfl, .here _, leads⟩
  | ask q next ih =>
      cases leads with
      | further later =>
          obtain ⟨own, more, middle, rfl, first, second⟩ := ih _ later
          exact ⟨_ :: own, more, middle, rfl, .further first, second⟩

-- A program that has ended has ended in one way, whatever was asked afterwards.
theorem leads_once {p : Program Answer α} {t t' u u' : List (Exchange Answer)} {value value' : α}
    (first : Leads p t (.done value)) (second : Leads p t' (.done value')) (same : t ++ u = t' ++ u') :
    value = value' ∧ t = t' := by
  induction p generalizing t t' with
  | done =>
      obtain ⟨rfl, ended⟩ := leads_done first
      obtain ⟨rfl, ended'⟩ := leads_done second
      cases ended
      cases ended'
      exact ⟨rfl, rfl⟩
  | ask q next ih =>
      cases first with
      | further first =>
          cases second with
          | further second =>
              simp only [List.cons_append, List.cons.injEq, Exchange.mk.injEq, heq_eq_eq, true_and] at same
              obtain ⟨rfl, later⟩ := same
              obtain ⟨values, transcripts⟩ := ih _ first second later
              exact ⟨values, by rw [transcripts]⟩

def Meets (c : Conduct Answer) (post : List (Exchange Answer) → α → Prop) :
    Program Answer α → List (Exchange Answer) → Prop
  | .done value, t => post t value
  | .ask q next, t => c.guarantee t q ∧ ∀ answer, c.rely q answer → Meets c post (next answer) (t ++ [⟨q, answer⟩])

variable {c : Conduct Answer} {post : List (Exchange Answer) → α → Prop}

theorem meets_pure {value : α} {t : List (Exchange Answer)} (holds : post t value) :
    Meets c post (pure value : Program Answer α) t := holds

theorem meets_question {q : Question} {post : List (Exchange Answer) → Answer q → Prop} {t : List (Exchange Answer)}
    (kept : c.guarantee t q) (answered : ∀ answer, c.rely q answer → post (t ++ [⟨q, answer⟩]) answer) :
    Meets c post (question q) t :=
  ⟨kept, answered⟩

theorem meets_first {q : Question} {f : Answer q → Program Answer α} {t : List (Exchange Answer)}
    (kept : c.guarantee t q)
    (further : ∀ answer, c.rely q answer → Meets c post (f answer) (t ++ [⟨q, answer⟩])) :
    Meets c post (question q >>= f) t :=
  ⟨kept, further⟩

theorem meets_weaken {post' : List (Exchange Answer) → α → Prop} {p : Program Answer α} {t : List (Exchange Answer)}
    (met : Meets c post p t) (weaker : ∀ u value, post u value → post' u value) : Meets c post' p t := by
  induction p generalizing t with
  | done value => exact weaker t value met
  | ask q next ih => exact ⟨met.1, fun answer relied => ih answer (met.2 answer relied)⟩

theorem meets_bind {middle : List (Exchange Answer) → β → Prop} {p : Program Answer β}
    {f : β → Program Answer α} {t : List (Exchange Answer)} (first : Meets c middle p t)
    (second : ∀ u value, middle u value → Meets c post (f value) u) : Meets c post (p >>= f) t := by
  change Meets c post (p.bind f) t
  induction p generalizing t with
  | done value => exact second t value first
  | ask q next ih => exact ⟨first.1, fun answer relied => ih answer (first.2 answer relied)⟩

theorem meets_each {ι : Type} {xs : List ι} {f : ι → Program Answer PUnit}
    (each : ∀ x t, Meets c (fun _ _ => True) (f x) t) (t : List (Exchange Answer)) :
    Meets c (fun _ _ => True) (xs.forM f) t := by
  induction xs generalizing t with
  | nil => trivial
  | cons x rest ih =>
      rw [List.forM_eq_forM, List.forM_cons]
      exact meets_bind (each x t) fun u _ _ => ih u

theorem meets_leads {p rest : Program Answer α} {t u : List (Exchange Answer)} (met : Meets c post p t)
    (leads : Leads p u rest) (honest : ∀ x ∈ u, c.rely x.question x.answer) : Meets c post rest (t ++ u) := by
  induction leads generalizing t with
  | here => simpa using met
  | @further q next answer u rest _ ih =>
      have relied : c.rely q answer := honest ⟨q, answer⟩ (by simp)
      have further := ih (met.2 answer relied) fun x member => honest x (by simp [member])
      simpa using further

-- Each question was put as the program keeps to it, given what had been asked before.
theorem meets_kept {p rest : Program Answer α} {t u early late : List (Exchange Answer)} {x : Exchange Answer}
    (met : Meets c post p t) (leads : Leads p u rest) (honest : ∀ x ∈ u, c.rely x.question x.answer)
    (split : u = early ++ x :: late) : c.guarantee (t ++ early) x.question := by
  induction leads generalizing t early with
  | here => simp at split
  | @further q next answer u rest _ ih =>
      cases early with
      | nil =>
          cases split
          simpa using met.1
      | cons y early =>
          obtain ⟨rfl, later⟩ := List.cons.inj split
          have relied : c.rely q answer := honest ⟨q, answer⟩ (by simp)
          have further := ih (met.2 answer relied) (fun x member => honest x (by simp [member])) later
          simpa using further

-- The exchanges of a program can be told apart from those before it, so that what it came to can be said of a
-- program that it is a part of.
theorem meets_traced {p : Program Answer α} {t : List (Exchange Answer)} (met : Meets c post p t) :
    Meets c (fun u value => post u value ∧ ∃ own, u = t ++ own ∧ Leads p own (.done value)) p t := by
  suffices general : ∀ whole before own, t = before ++ own → Leads whole own p →
      Meets c (fun u value => post u value ∧ ∃ own, u = before ++ own ∧ Leads whole own (.done value)) p t from
    general p t [] (by simp) (.here p)
  intro whole before own split leads
  induction p generalizing t own with
  | done value => exact ⟨met, own, split, leads⟩
  | ask q next ih =>
      refine ⟨met.1, fun answer relied => ?_⟩
      exact ih answer (met.2 answer relied) (own ++ [⟨q, answer⟩]) (by simp [split]) (leads_snoc leads answer)

-- Where nothing is asked of the surroundings or of the program.
def anyhow : Conduct Answer := ⟨fun _ _ => True, fun _ _ => True⟩

theorem meets_and_anyhow {post' : List (Exchange Answer) → α → Prop} {p : Program Answer α}
    {t : List (Exchange Answer)} (met : Meets c post p t) (always : Meets anyhow post' p t) :
    Meets c (fun u value => post u value ∧ post' u value) p t := by
  induction p generalizing t with
  | done value => exact ⟨met, always⟩
  | ask q next ih => exact ⟨met.1, fun answer relied => ih answer (met.2 answer relied) (always.2 answer trivial)⟩

theorem meets_anyhow (p : Program Answer α) (t : List (Exchange Answer)) : Meets anyhow (fun _ _ => True) p t := by
  induction p generalizing t with
  | done => trivial
  | ask q next ih => exact ⟨trivial, fun answer _ => ih answer _⟩

end Program

end GridLoad
