import GridLoad.Feature.Token

/-!
What one forecast is known by. Keys are ordered by their fields in turn.
-/

set_option autoImplicit false

namespace GridLoad

structure Key where
  zone : String
  horizon : Nat
  token : Token
  generation : Nat
  deriving DecidableEq

-- Two fields, of which the second decides among equals in the first.
structure Ranked (α β : Type) where
  first : α
  second : β
  deriving DecidableEq

namespace Ranked

variable {α β : Type} [LT α] [LT β]

instance : LT (Ranked α β) :=
  ⟨fun a b => a.first < b.first ∨ a.first = b.first ∧ a.second < b.second⟩

instance [DecidableEq α] [DecidableLT α] [DecidableLT β] : DecidableLT (Ranked α β) := fun a b =>
  inferInstanceAs (Decidable (a.first < b.first ∨ a.first = b.first ∧ a.second < b.second))

instance [KeyOrder α] [KeyOrder β] : KeyOrder (Ranked α β) where
  before_trans {a b c} one two := by
    rcases one with less | ⟨same, less⟩ <;> rcases two with more | ⟨same', more⟩
    · exact .inl (KeyOrder.before_trans less more)
    · exact .inl (same' ▸ less)
    · exact .inl (same ▸ more)
    · exact .inr ⟨same.trans same', KeyOrder.before_trans less more⟩
  before_irrefl a less := by
    rcases less with less | ⟨_, less⟩ <;> exact KeyOrder.before_irrefl _ less
  before_total a b := by
    rcases KeyOrder.before_total a.first b.first with less | same | more
    · exact .inl (.inl less)
    · rcases KeyOrder.before_total a.second b.second with less | same' | more
      · exact .inl (.inr ⟨same, less⟩)
      · exact .inr (.inl (by cases a; cases b; cases same; cases same'; rfl))
      · exact .inr (.inr (.inr ⟨same.symm, more⟩))
    · exact .inr (.inr (.inl more))

end Ranked

namespace Key

def ranked (k : Key) : Ranked String (Ranked Nat (Ranked String Nat)) :=
  ⟨k.zone, k.horizon, k.token, k.generation⟩

theorem ranked_injective {a b : Key} (same : a.ranked = b.ranked) : a = b := by
  cases a; cases b
  simpa [ranked] using same

instance : LT Key := ⟨fun a b => a.ranked < b.ranked⟩

instance : DecidableLT Key := fun a b => inferInstanceAs (Decidable (a.ranked < b.ranked))

instance : KeyOrder Key where
  before_trans {a b c} one two :=
    KeyOrder.before_trans (a := a.ranked) (b := b.ranked) (c := c.ranked) one two
  before_irrefl a := KeyOrder.before_irrefl a.ranked
  before_total a b :=
    (KeyOrder.before_total a.ranked b.ranked).imp_right (Or.imp_left ranked_injective)

end Key

end GridLoad
