/-!
Tensors in single precision. Two tensors go together entry by entry when their shapes agree from the last
dimension on; a dimension of one goes with any.
-/

set_option autoImplicit false

namespace GridLoad

/-- Entries with the last dimension running fastest. -/
structure Tensor where
  shape : List Nat
  entries : List Float32

namespace Tensor

def sizeOf (shape : List Nat) : Nat := shape.foldl (· * ·) 1

def row (entries : List Float32) : Tensor := ⟨[1, entries.length], entries⟩

def places : (shape : List Nat) → List (List Nat)
  | [] => [[]]
  | d :: rest => (List.range d).flatMap fun i => (places rest).map (i :: ·)

-- Place in the entries, from the last dimension on.
def offset : (stride : Nat) → (shape place : List Nat) → Nat
  | stride, d :: shape, i :: place =>
      (if d = 1 then 0 else stride * i) + offset (stride * d) shape place
  | _, _, _ => 0

-- The entry at a place, which may have more dimensions.
def entry (t : Tensor) (place : List Nat) : Float32 :=
  t.entries.getD (offset 1 t.shape.reverse place.reverse) 0

-- Common shape from the last dimension on.
def joinReversed? : List Nat → List Nat → Option (List Nat)
  | [], ys => some ys
  | xs, [] => some xs
  | x :: xs, y :: ys =>
      let d := if x = 1 then some y else if y = 1 || x = y then some x else none
      d.bind fun d => (joinReversed? xs ys).map (d :: ·)

def joinShapes? (a b : List Nat) : Option (List Nat) :=
  (joinReversed? a.reverse b.reverse).map List.reverse

def zipWith? (f : Float32 → Float32 → Float32) (a b : Tensor) : Option Tensor := do
  let shape ← joinShapes? a.shape b.shape
  some ⟨shape, (places shape).map fun i => f (a.entry i) (b.entry i)⟩

def constant (shape : List Nat) (x : Float32) : Tensor := ⟨shape, List.replicate (sizeOf shape) x⟩

def uniform? (t : Tensor) : Option Float32 :=
  match t.entries with
  | x :: rest => if rest.all fun y => y.toBits = x.toBits then some x else none
  | [] => none

def fitsReversed : List Nat → List Nat → Bool
  | [], _ => true
  | xs, [] => xs.all (· = 1)
  | x :: xs, y :: ys => (x = 1 || x = y) && fitsReversed xs ys

-- A tensor can be spread over another without changing its shape.
def fits (small large : Tensor) : Bool := fitsReversed small.shape.reverse large.shape.reverse

/-- `a * b + c` with a single rounding. The sum is formed in double precision, where the product is exact,
and its last bit records whether anything was lost before the result is rounded to single precision. -/
def fusedAdd (a b c : Float32) : Float32 :=
  let product := a.toFloat * b.toFloat
  let addend := c.toFloat
  let sum := product + addend
  let part := sum - product
  let lost := (product - (sum - part)) + (addend - part)
  if !sum.isFinite || lost == 0 || sum.toBits % 2 == 1 then sum.toFloat32
  else
    let outward := (lost > 0) == (sum > 0)
    (Float.ofBits (if outward then sum.toBits + 1 else sum.toBits - 1)).toFloat32

-- The product of matrices, or of stacks of matrices that go together. A tensor of one dimension counts as
-- a row on the left and as a column on the right, and the dimension that this adds is taken away again.
def product? (a b : Tensor) : Option Tensor :=
  let left := if a.shape.length = 1 then { a with shape := 1 :: a.shape } else a
  let right := if b.shape.length = 1 then { b with shape := b.shape ++ [1] } else b
  match left.shape.reverse, right.shape.reverse with
  | inner :: rows :: outerLeft, columns :: inner' :: outerRight =>
      if inner ≠ inner' then none
      else do
        let outer ← (joinReversed? outerLeft outerRight).map List.reverse
        let entries := (places outer).flatMap fun o =>
          (List.range rows).flatMap fun i =>
            (List.range columns).map fun j =>
              (List.range inner).foldl
                (fun sum k => fusedAdd (left.entry (o ++ [i, k])) (right.entry (o ++ [k, j])) sum) 0
        let kept := (if a.shape.length = 1 then [] else [rows]) ++ (if b.shape.length = 1 then [] else [columns])
        some ⟨outer ++ kept, entries⟩
  | _, _ => none

end Tensor

end GridLoad
