import GridLoad.Text.Utf8
import GridLoad.Word

/-!
Binary records on the wire: a sequence of fields, each a key and a payload. The key holds the field's number
and the form of its payload: a word, eight or four bytes, a byte string with its size, or a group of fields
between two keys. A group can only be skipped.
-/

set_option autoImplicit false

namespace GridLoad.Wire

-- A word in groups of seven bits, the lowest first; at most ten bytes.
def readWord : Nat → List UInt8 → Option (Nat × List UInt8)
  | 0, _ => none
  | _, [] => none
  | count + 1, b :: rest =>
      if b < 0x80 then some (b.toNat, rest)
      else (readWord count rest).map fun r => (b.toNat % 128 + 128 * r.1, r.2)

def word? (bytes : List UInt8) : Option (Nat × List UInt8) :=
  (readWord 10 bytes).filter fun r => r.1 < wordLimit 64

def take? (count : Nat) (bytes : List UInt8) : Option (List UInt8 × List UInt8) :=
  if bytes.length < count then none else some (bytes.take count, bytes.drop count)

inductive Form where
  | word
  | eightBytes
  | sized
  | openGroup
  | closeGroup
  | fourBytes
  deriving DecidableEq

def Form.ofCode? : Nat → Option Form
  | 0 => some .word
  | 1 => some .eightBytes
  | 2 => some .sized
  | 3 => some .openGroup
  | 4 => some .closeGroup
  | 5 => some .fourBytes
  | _ => none

structure Key where
  number : Nat
  form : Form
  deriving DecidableEq

-- A key is a word of 32 bits, and no field has the number zero.
def key? (bytes : List UInt8) : Option (Key × List UInt8) := do
  let (n, rest) ← word? bytes
  let form ← Form.ofCode? (n % 8)
  if n < wordLimit 32 ∧ 0 < n / 8 then some (⟨n / 8, form⟩, rest) else none

def sized? (bytes : List UInt8) : Option (List UInt8 × List UInt8) := do
  let (size, rest) ← word? bytes
  take? size rest

/-- Skips payloads up to the end of the innermost open group. The numbers of the groups that are open come
with the innermost first; `levels` more may be opened. The count bounds the number of fields. -/
def skipGroups : Nat → (levels : Nat) → (opened : List Nat) → List UInt8 → Option (List UInt8)
  | _, _, [], bytes => some bytes
  | 0, _, _, _ => none
  | count + 1, levels, number :: outer, bytes => do
      let (key, rest) ← key? bytes
      if key.form = .closeGroup then
        if key.number = number then skipGroups count (levels + 1) outer rest else none
      else if levels = 0 then none
      else
        match key.form with
        | .word => do
            let (_, rest) ← word? rest
            skipGroups count levels (number :: outer) rest
        | .eightBytes => do
            let (_, rest) ← take? 8 rest
            skipGroups count levels (number :: outer) rest
        | .fourBytes => do
            let (_, rest) ← take? 4 rest
            skipGroups count levels (number :: outer) rest
        | .sized => do
            let (_, rest) ← sized? rest
            skipGroups count levels (number :: outer) rest
        | .openGroup => skipGroups count (levels - 1) (key.number :: number :: outer) rest
        | .closeGroup => none

def skip? (levels : Nat) (key : Key) (bytes : List UInt8) : Option (List UInt8) :=
  if levels = 0 then none
  else
    match key.form with
    | .word => (word? bytes).map (·.2)
    | .eightBytes => (take? 8 bytes).map (·.2)
    | .fourBytes => (take? 4 bytes).map (·.2)
    | .sized => (sized? bytes).map (·.2)
    | .openGroup => skipGroups bytes.length (levels - 1) [key.number] bytes
    | .closeGroup => none

def words? : Nat → List UInt8 → Option (List Nat)
  | _, [] => some []
  | 0, _ => none
  | count + 1, bytes => do
      let (n, rest) ← word? bytes
      let others ← words? count rest
      some (n :: others)

def pieces? (size : Nat) : Nat → List UInt8 → Option (List (List UInt8))
  | _, [] => some []
  | 0, _ => none
  | count + 1, bytes => do
      let (piece, rest) ← take? size bytes
      let others ← pieces? size count rest
      some (piece :: others)

-- The number of four bytes or eight, the lowest first.
def natOfBytes (bytes : List UInt8) : Nat := bytes.foldr (fun b n => b.toNat + 256 * n) 0

end GridLoad.Wire
