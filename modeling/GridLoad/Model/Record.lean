import GridLoad.Model.Wire

/-!
Binary records read by a schema, which tells for each kind of record what its fields hold. Fields of unknown
numbers are skipped; a known field with a payload of another form makes the whole record unreadable. A record
that stands in several fields of one number counts as one record with the fields of all.
-/

set_option autoImplicit false

namespace GridLoad

inductive FieldKind (κ : Type) where
  | word
  | fourBytes
  | eightBytes
  | text
  | bytes
  | record (kind : κ)
  -- Any number of words, four bytes or eight, singly or together in a byte string.
  | words
  | fours
  | eights

abbrev Schema (κ : Type) := κ → List (Nat × FieldKind κ)

inductive Item where
  | word (n : Nat)
  | text (value : String)
  | bytes (value : List UInt8)
  | record (fields : List (Nat × Item))

-- Fields in the order in which they stand, several words under one key as a field each.
abbrev Record := List (Nat × Item)

namespace Record

def readItems {κ : Type} (kind : FieldKind κ) (key : Wire.Key) (bytes : List UInt8) :
    Option (List Item × List UInt8) :=
  let wordsOf := fun (ns : List Nat) => ns.map Item.word
  match kind, key.form with
  | .word, .word => (Wire.word? bytes).map fun r => ([.word r.1], r.2)
  | .words, .word => (Wire.word? bytes).map fun r => ([.word r.1], r.2)
  | .words, .sized => do
      let (content, rest) ← Wire.sized? bytes
      let ns ← Wire.words? content.length content
      some (wordsOf ns, rest)
  | .fourBytes, .fourBytes => (Wire.take? 4 bytes).map fun r => ([.word (Wire.natOfBytes r.1)], r.2)
  | .fours, .fourBytes => (Wire.take? 4 bytes).map fun r => ([.word (Wire.natOfBytes r.1)], r.2)
  | .fours, .sized => do
      let (content, rest) ← Wire.sized? bytes
      let pieces ← Wire.pieces? 4 content.length content
      some (wordsOf (pieces.map Wire.natOfBytes), rest)
  | .eightBytes, .eightBytes => (Wire.take? 8 bytes).map fun r => ([.word (Wire.natOfBytes r.1)], r.2)
  | .eights, .eightBytes => (Wire.take? 8 bytes).map fun r => ([.word (Wire.natOfBytes r.1)], r.2)
  | .eights, .sized => do
      let (content, rest) ← Wire.sized? bytes
      let pieces ← Wire.pieces? 8 content.length content
      some (wordsOf (pieces.map Wire.natOfBytes), rest)
  | .text, .sized => do
      let (content, rest) ← Wire.sized? bytes
      let text ← Text.ofBytes? content
      some ([.text text], rest)
  | .bytes, .sized => (Wire.sized? bytes).map fun r => ([.bytes r.1], r.2)
  | _, _ => none

-- Reads a record of a kind, which may have `levels` more records or groups inside each other. The count
-- bounds the number of fields.
def read? {κ : Type} (schema : Schema κ) : Nat → (levels : Nat) → κ → List UInt8 → Option Record
  | _, _, _, [] => some []
  | 0, _, _, _ => none
  | count + 1, levels, kind, bytes => do
      let (key, rest) ← Wire.key? bytes
      match (schema kind).lookup key.number with
      | none => do
          let rest ← Wire.skip? levels key rest
          read? schema count levels kind rest
      | some (.record inner) =>
          if key.form = .sized ∧ 0 < levels then do
            let (content, rest) ← Wire.sized? rest
            let fields ← read? schema count (levels - 1) inner content
            let others ← read? schema count levels kind rest
            some ((key.number, .record fields) :: others)
          else none
      | some item => do
          let (items, rest) ← readItems item key rest
          let others ← read? schema count levels kind rest
          some (items.map (key.number, ·) ++ others)

def greatestDepth : Nat := 100

def ofBytes? {κ : Type} (schema : Schema κ) (kind : κ) (bytes : List UInt8) : Option Record :=
  read? schema bytes.length greatestDepth kind bytes

def all (r : Record) (number : Nat) : List Item := (r.filter fun f => f.1 = number).map (·.2)

def words (r : Record) (number : Nat) : List Nat :=
  (r.all number).filterMap fun
    | .word n => some n
    | _ => none

def texts (r : Record) (number : Nat) : List String :=
  (r.all number).filterMap fun
    | .text value => some value
    | _ => none

def records (r : Record) (number : Nat) : List Record :=
  (r.all number).filterMap fun
    | .record fields => some fields
    | _ => none

-- The last word with a number; zero where there is none.
def wordOr0 (r : Record) (number : Nat) : Nat := (r.words number).getLast?.getD 0

def text (r : Record) (number : Nat) : String := (r.texts number).getLast?.getD ""

def bytes (r : Record) (number : Nat) : List UInt8 :=
  ((r.all number).filterMap fun
    | .bytes value => some value
    | _ => none).getLast?.getD []

-- The one record with a number, made up of all of them.
def record? (r : Record) (number : Nat) : Option Record :=
  match r.records number with
  | [] => none
  | parts => some parts.flatten

end Record

end GridLoad
