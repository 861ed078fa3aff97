/-!
Programs that put questions to their surroundings and go on with the answers. The surroundings may answer at
once, let the program wait, or answer other programs in between; each question is one indivisible step.
-/

set_option autoImplicit false

namespace GridLoad

/-- A program that ends with a value after any number of questions. -/
inductive Program {Question : Type} (Answer : Question → Type) (α : Type) where
  | done (value : α)
  | ask (question : Question) (next : Answer question → Program Answer α)

namespace Program

variable {Question : Type} {Answer : Question → Type} {α β γ : Type}

def bind : Program Answer α → (α → Program Answer β) → Program Answer β
  | .done value, f => f value
  | .ask question next, f => .ask question fun answer => (next answer).bind f

instance : Monad (Program Answer) where
  pure := .done
  bind := bind

def question (q : Question) : Program Answer (Answer q) := .ask q .done

@[simp] theorem bind_done (value : α) (f : α → Program Answer β) : (Program.done value).bind f = f value := rfl

@[simp] theorem bind_ask (q : Question) (next : Answer q → Program Answer α) (f : α → Program Answer β) :
    (Program.ask q next).bind f = .ask q fun answer => (next answer).bind f := rfl

theorem bind_pure (p : Program Answer α) : p.bind .done = p := by
  induction p with
  | done value => rfl
  | ask q next ih =>
      simp only [bind_ask]
      congr 1
      funext answer
      exact ih answer

theorem bind_assoc (p : Program Answer α) (f : α → Program Answer β) (g : β → Program Answer γ) :
    (p.bind f).bind g = p.bind fun value => (f value).bind g := by
  induction p with
  | done value => rfl
  | ask q next ih =>
      simp only [bind_ask]
      congr 1
      funext answer
      exact ih answer

instance : LawfulMonad (Program Answer) :=
  LawfulMonad.mk' _ bind_pure (fun _ _ => rfl) bind_assoc

end Program

end GridLoad
