import GridLoad.Model.Metadata

/-!
A model: what is known of it, and its estimate from standardized inputs, or why it gives none.
-/

set_option autoImplicit false

namespace GridLoad

structure Model where
  metadata : Metadata
  estimate : List Float → Except String Float

namespace Model

def constant (metadata : Metadata) (value : Float) : Model := ⟨metadata, fun _ => .ok value⟩

def failing (metadata : Metadata) (message : String) : Model := ⟨metadata, fun _ => .error message⟩

def wrongCount (expected given : Nat) : String :=
  "expected " ++ toString expected ++ " inputs, got " ++ toString given

end Model

def unreadable : String := "the document does not have the expected form"

end GridLoad
