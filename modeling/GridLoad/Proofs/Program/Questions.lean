import GridLoad.Proofs.Program.Transcript

/-!
Programs that put questions of some kinds only, whatever they are answered.
-/

set_option autoImplicit false

namespace GridLoad.Program

variable {Question : Type} {Answer : Question → Type} {α β : Type} {allowed wider : Question → Prop}

inductive Asks (allowed : Question → Prop) : Program Answer α → Prop
  | done (value : α) : Asks allowed (.done value)
  | ask {q : Question} {next : Answer q → Program Answer α} (kind : allowed q)
      (further : ∀ answer, Asks allowed (next answer)) : Asks allowed (.ask q next)

theorem asks_pure (value : α) : Asks allowed (pure value : Program Answer α) := .done value

theorem asks_question {q : Question} (kind : allowed q) : Asks allowed (question q : Program Answer (Answer q)) :=
  .ask kind .done

theorem asks_first {q : Question} {f : Answer q → Program Answer α} (kind : allowed q)
    (further : ∀ answer, Asks allowed (f answer)) : Asks allowed (question q >>= f) :=
  .ask kind further

theorem asks_bind {p : Program Answer β} {f : β → Program Answer α} (first : Asks allowed p)
    (second : ∀ value, Asks allowed (f value)) : Asks allowed (p >>= f) := by
  change Asks allowed (p.bind f)
  induction first with
  | done value => exact second value
  | ask kind _ ih => exact .ask kind ih

theorem asks_each {ι : Type} {xs : List ι} {f : ι → Program Answer PUnit} (each : ∀ x, Asks allowed (f x)) :
    Asks allowed (xs.forM f) := by
  induction xs with
  | nil => exact asks_pure _
  | cons x rest ih =>
      rw [List.forM_eq_forM, List.forM_cons]
      exact asks_bind (each x) fun _ => ih

theorem asks_weaken {p : Program Answer α} (asks : Asks allowed p) (weaker : ∀ q, allowed q → wider q) :
    Asks wider p := by
  induction asks with
  | done value => exact .done value
  | ask kind _ ih => exact .ask (weaker _ kind) ih

-- Something that these questions leave as it is holds until the end, if they can be put while it holds.
theorem asks_meets {c : Conduct Answer} {p : Program Answer α} (kept : List (Exchange Answer) → Prop)
    (asks : Asks allowed p) (put : ∀ t q, kept t → allowed q → c.guarantee t q)
    (stays : ∀ t q (answer : Answer q), kept t → allowed q → kept (t ++ [⟨q, answer⟩]))
    {t : List (Exchange Answer)} (holds : kept t) : Meets c (fun u _ => kept u) p t := by
  induction asks generalizing t with
  | done value => exact holds
  | ask kind _ ih => exact ⟨put t _ holds kind, fun answer _ => ih answer (stays t _ answer holds kind)⟩

end GridLoad.Program
