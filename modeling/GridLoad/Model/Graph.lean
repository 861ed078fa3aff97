import GridLoad.Model.Estimator
import GridLoad.Model.GraphFile

/-!
Models as computation graphs in single precision. The graph takes one row of standardized features and gives
the estimate as the first value of its first output. Only what the outputs depend on is computed, in whatever
order the operations are written.
-/

set_option autoImplicit false

namespace GridLoad

namespace Graph

-- A tensor, and whether it is the same for all features.
structure Computed where
  tensor : Tensor
  fixed : Bool

-- The one value of a tensor that is the same for all features and can be spread over another.
def Computed.scalar? (small large : Computed) : Option Float32 :=
  if small.fixed && small.tensor.fits large.tensor then small.tensor.uniform? else none

def entrywise (f : Float32 → Float32 → Float32) (a b : Computed) : Option Computed :=
  (a.tensor.zipWith? f b.tensor).map (⟨·, a.fixed && b.fixed⟩)

-- A sum; to add a fixed zero changes nothing.
def add? (a b : Computed) : Option Computed :=
  if (a.scalar? b).any (· == 0) then some b
  else if (b.scalar? a).any (· == 0) then some a
  else entrywise (· + ·) a b

-- A difference; to take away a fixed zero changes nothing.
def sub? (a b : Computed) : Option Computed :=
  if (b.scalar? a).any (· == 0) then some a else entrywise (· - ·) a b

-- A product entry by entry; with a fixed zero it is that zero, also where the other value is not finite.
def mul? (a b : Computed) : Option Computed :=
  match (a.scalar? b).filter (· == 0), (b.scalar? a).filter (· == 0) with
  | some zero, _ => some ⟨.constant b.tensor.shape zero, true⟩
  | none, some zero => some ⟨.constant a.tensor.shape zero, true⟩
  | none, none => entrywise (· * ·) a b

def operate? (operation : String) (arguments : List Computed) : Option Computed :=
  match operation, arguments with
  | "MatMul", [a, b] => (a.tensor.product? b.tensor).map (⟨·, a.fixed && b.fixed⟩)
  | "Add", [a, b] => add? a b
  | "Sub", [a, b] => sub? a b
  | "Mul", [a, b] => mul? a b
  | _, _ => none

abbrev Known := List (String × Computed)

-- What is known before any operation: the features and the constants, as far as no operation gives their
-- names.
def given (g : Graph) (features : List Float32) : Known :=
  let row := (g.inputs.head?.map fun name => (name, Computed.mk (.row features) false)).toList
  let constants := g.constants.filterMap fun c => c.2.map fun t => (c.1, Computed.mk t true)
  (row ++ constants).filter fun k => !g.nodes.any fun node => node.outputs.contains k.1

def addNode (known : Known) (node : Node) : Known :=
  match node.outputs with
  | name :: _ =>
      if (known.lookup name).isSome then known
      else
        match (node.inputs.mapM fun input => known.lookup input).bind (operate? node.operation) with
        | some result => (name, result) :: known
        | none => known
  | [] => known

def settle (nodes : List Node) : Nat → Known → Known
  | 0, known => known
  | count + 1, known => settle nodes count (nodes.foldl addNode known)

/-- The tensors of all outputs. Each time through, one more operation at least finds its arguments. -/
def run? (g : Graph) (features : List Float32) : Option (List Tensor) :=
  let known := settle g.nodes g.nodes.length (g.given features)
  g.outputs.mapM fun name => (known.lookup name).map (·.tensor)

def wrongInputCount (g : Graph) : String :=
  "Wrong number of inputs for model. Expected " ++ toString g.inputs.length ++ " got 1"

def estimate (g : Graph) (count : Nat) (inputs : List Float) : Except String Float :=
  if inputs.length ≠ count then .error (Model.wrongCount count inputs.length)
  else if g.inputs.length ≠ 1 then .error g.wrongInputCount
  else
    match g.run? (inputs.map Float.toFloat32) with
    | some (output :: _) =>
        match output.entries with
        | value :: _ => .ok value.toFloat
        | [] => .error "Model output is empty"
    | _ => .error "No output from model"

def model (bytes : List UInt8) (metadata : Metadata) : Except String Model :=
  let count := metadata.features.length
  match (ofBytes? bytes).filter fun g =>
      !g.inputs.isEmpty && (g.run? (List.replicate count 0)).isSome with
  | some g => .ok ⟨metadata, g.estimate count⟩
  | none => .error unreadable

end Graph

end GridLoad
