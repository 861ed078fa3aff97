import GridLoad.Model.Record
import GridLoad.Model.Tensor

/-!
Computation graphs as they are stored: a model with a graph of operations on named tensors, of which some are
constants. The schema lists the fields of all records in the file, so that a fault anywhere in it is found.
-/

set_option autoImplicit false

namespace GridLoad

inductive GraphRecord where
  | model
  | operationSet
  | entry
  | graph
  | node
  | attribute
  | tensor
  | segment
  | sparseTensor
  | quantization
  | value
  | type
  | tensorType
  | sequenceType
  | mapType
  | sparseType
  | shape
  | dimension
  | training
  deriving DecidableEq

def GraphRecord.schema : Schema GraphRecord
  | .model =>
      [(1, .word), (2, .text), (3, .text), (4, .text), (5, .word), (6, .text), (7, .record .graph),
        (8, .record .operationSet), (14, .record .entry), (20, .record .training)]
  | .operationSet => [(1, .text), (2, .word)]
  | .entry => [(1, .text), (2, .text)]
  | .graph =>
      [(1, .record .node), (2, .text), (5, .record .tensor), (10, .text), (11, .record .value),
        (12, .record .value), (13, .record .value), (14, .record .quantization), (15, .record .sparseTensor)]
  | .node =>
      [(1, .text), (2, .text), (3, .text), (4, .text), (5, .record .attribute), (6, .text), (7, .text)]
  | .attribute =>
      [(1, .text), (2, .fourBytes), (3, .word), (4, .bytes), (5, .record .tensor), (6, .record .graph),
        (7, .fours), (8, .words), (9, .bytes), (10, .record .tensor), (11, .record .graph), (13, .text),
        (14, .record .type), (15, .record .type), (20, .word), (21, .text), (22, .record .sparseTensor),
        (23, .record .sparseTensor)]
  | .tensor =>
      [(1, .words), (2, .word), (3, .record .segment), (4, .fours), (5, .words), (6, .bytes), (7, .words),
        (8, .text), (9, .bytes), (10, .eights), (11, .words), (12, .text), (13, .record .entry), (14, .word)]
  | .segment => [(1, .word), (2, .word)]
  | .sparseTensor => [(1, .record .tensor), (2, .record .tensor), (3, .words)]
  | .quantization => [(1, .text), (2, .record .entry)]
  | .value => [(1, .text), (2, .record .type), (3, .text)]
  | .type =>
      [(1, .record .tensorType), (4, .record .sequenceType), (5, .record .mapType), (6, .text),
        (8, .record .sparseType)]
  | .tensorType => [(1, .word), (2, .record .shape)]
  | .sequenceType => [(1, .record .type)]
  | .mapType => [(1, .word), (2, .record .type)]
  | .sparseType => [(1, .word), (2, .record .shape)]
  | .shape => [(1, .record .dimension)]
  | .dimension => [(1, .word), (2, .text), (3, .text)]
  | .training =>
      [(1, .record .graph), (2, .record .graph), (3, .record .entry), (4, .record .entry)]

namespace Graph

structure Node where
  operation : String
  inputs : List String
  outputs : List String

end Graph

structure Graph where
  -- No name is given by two of them.
  nodes : List Graph.Node
  -- Constants by name; one that is not in single precision has no tensor.
  constants : List (String × Option Tensor)
  -- Names of the inputs that are no constants. The first is the tensor of features.
  inputs : List String
  outputs : List String

namespace Graph

def singlePrecision : Nat := 1

-- For each type of entries its code, the bytes of an entry, and the field where entries stand that are not
-- raw bytes.
def entryTypes : List (Nat × Nat × Nat) :=
  [(1, 4, 4), (2, 1, 5), (3, 1, 5), (4, 2, 5), (5, 2, 5), (6, 4, 5), (7, 8, 7), (8, 1, 6), (9, 1, 5),
    (10, 2, 5), (11, 8, 10), (12, 4, 11), (13, 8, 11)]

def singles (bits : List Nat) : List Float32 := bits.map fun n => Float32.ofBits (UInt32.ofNat n)

-- A constant. Raw bytes go before entries that stand in fields; there have to be as many as the shape
-- has places.
def constant? (r : Record) : Option (String × Option Tensor) := do
  let shape := r.words 1
  let (size, field) ← entryTypes.lookup (r.wordOr0 2)
  let raw := r.bytes 9
  let found := if raw.isEmpty then (r.all field).length * size else raw.length
  if found ≠ Tensor.sizeOf shape * size then none
  else if r.wordOr0 2 ≠ singlePrecision then some (r.text 8, none)
  else do
    let bits ← if raw.isEmpty then some (r.words field)
      else (Wire.pieces? 4 raw.length raw).map (List.map Wire.natOfBytes)
    some (r.text 8, some ⟨shape, singles bits⟩)

-- An input is a tensor with entries of some type; of which type does not matter.
def isTensor (r : Record) : Bool :=
  match (r.record? 2).bind (·.record? 1) with
  | some tensor => (entryTypes.lookup (tensor.wordOr0 1)).isSome
  | none => false

def node (r : Record) : Node where
  operation := r.text 4
  inputs := (r.texts 1).filter (· ≠ "")
  outputs := (r.texts 2).filter (· ≠ "")

-- Nodes without those whose name a later one gives.
def lastOfEach : List Node → List Node
  | [] => []
  | n :: rest =>
      if rest.any fun later => later.outputs.any (n.outputs.head? = some ·) then lastOfEach rest
      else n :: lastOfEach rest

-- Of constants with one name the last stays.
def ofRecord? (r : Record) : Option Graph := do
  let constants ← (r.records 5).mapM constant?
  let constants := constants.reverse
  let inputs := (r.records 11).filter fun value => (constants.lookup (value.text 1)).isNone
  if inputs.all isTensor then
    some
      { nodes := lastOfEach ((r.records 1).map node)
        constants := constants
        inputs := inputs.map (·.text 1)
        outputs := (r.records 12).map (·.text 1) }
  else none

def ofBytes? (bytes : List UInt8) : Option Graph := do
  let model ← Record.ofBytes? GraphRecord.schema .model bytes
  let graph ← model.record? 7
  ofRecord? graph

end Graph

end GridLoad
