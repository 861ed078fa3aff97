import GridLoad.Json.Reader
import GridLoad.Table
import GridLoad.Word

/-!
Values from documents. A record is an object or the list of its leading fields in declared order. In an
object unknown fields are skipped and a known field stands once; in a list nothing may follow the last field.
-/

set_option autoImplicit false

namespace GridLoad.Json

abbrev Decoder (α : Type) := Json → Option α

def toText? : Decoder String
  | .string lexeme => textOf? lexeme
  | _ => none

def toFloat? : Decoder Float
  | .number lexeme => floatOf? lexeme
  | _ => none

def toBool? : Decoder Bool
  | .bool value => some value
  | _ => none

def toInteger? (least greatest : Int) : Decoder Int
  | .number lexeme =>
      match integerOf? lexeme with
      | some n => if least ≤ n ∧ n ≤ greatest then some n else none
      | none => none
  | _ => none

def toWord? (bits : Nat) : Decoder Nat := fun j =>
  (toInteger? 0 ((wordLimit bits : Int) - 1) j).map Int.toNat

def toSigned64? : Decoder Int := toInteger? (-(wordLimit 63 : Int)) ((wordLimit 63 : Int) - 1)

def toOption? {α : Type} (item : Decoder α) : Decoder (Option α)
  | .null => some none
  | j => (item j).map some

def toList? {α : Type} (item : Decoder α) : Decoder (List α)
  | .array items => items.mapM item
  | _ => none

-- A table whose keys are read from lexemes; of entries with one key the last stays.
def toTable? {κ α : Type} [LT κ] [DecidableLT κ] [DecidableEq κ] [KeyOrder κ]
    (key : Lexeme → Option κ) (item : Decoder α) : Decoder (Table κ α)
  | .object fields => do
      let entries ← fields.mapM fun f => do
        let k ← key f.1
        let a ← item f.2
        some (k, a)
      some (Table.ofList entries)
  | _ => none

-- A key that counts hours: plain digits, with no zero before others.
def hoursKey? (lexeme : Lexeme) : Option Nat :=
  let n := Decimal.natOfDigits lexeme
  if lexeme.all Char.isDigit ∧ !lexeme.isEmpty ∧ (lexeme.head? ≠ some '0' ∨ lexeme.length = 1) ∧ n < wordLimit 32
  then some n else none

structure Record where
  positional : Bool
  given : List (String × Json)

namespace Record

def value? (r : Record) (name : String) : Option Json :=
  (r.given.find? fun f => f.1 = name).map (·.2)

def collect (names : List String) (strict : Bool) :
    List (Lexeme × Json) → List (String × Json) → Option (List (String × Json))
  | [], given => some given
  | (lexeme, value) :: rest, given => do
      let name ← textOf? lexeme
      if names.contains name then
        if given.any fun f => f.1 = name then none
        else collect names strict rest (given ++ [(name, value)])
      else if strict then none
      else collect names strict rest given

def ofFields? (names : List String) (strict : Bool) : Decoder Record
  | .object fields => (collect names strict fields []).map fun given => ⟨false, given⟩
  | .array items => if items.length ≤ names.length then some ⟨true, names.zip items⟩ else none
  | _ => none

-- Fields without which there is no record.
def required {α : Type} (r : Record) (name : String) (item : Decoder α) : Option α :=
  match r.value? name with
  | some j => item j
  | none => none

def defaulted {α : Type} (r : Record) (name : String) (fallback : α) (item : Decoder α) : Option α :=
  match r.value? name with
  | some j => item j
  | none => some fallback

-- A field that may be null or left out.
def optional {α : Type} (r : Record) (name : String) (item : Decoder α) : Option (Option α) :=
  r.defaulted name none (toOption? item)

-- A field that may be null and, in an object, left out.
def nullable {α : Type} (r : Record) (name : String) (item : Decoder α) : Option (Option α) :=
  match r.value? name with
  | some j => toOption? item j
  | none => if r.positional then none else some none

end Record

-- A record that skips unknown fields.
def toRecord? (names : List String) : Decoder Record := Record.ofFields? names false

def toStrictRecord? (names : List String) : Decoder Record := Record.ofFields? names true

mutual
def holdable : Json → Bool
  | .number lexeme => (floatOf? lexeme).isSome
  | .string lexeme => (unescape lexeme).isSome
  | .array items => itemsHoldable items
  | .object fields => fieldsHoldable fields
  | _ => true
def itemsHoldable : List Json → Bool
  | [] => true
  | item :: rest => holdable item && itemsHoldable rest
def fieldsHoldable : List (Lexeme × Json) → Bool
  | [] => true
  | (name, value) :: rest => (unescape name).isSome && holdable value && fieldsHoldable rest
end

-- Deepest nesting of a document that is held before its kind is known.
def greatestDepth : Nat := 127

/-- Splits a record of several kinds into its kind and its other fields. The kind may come anywhere, so the
whole document is held first; `outer` counts the levels around it. -/
def toTagged? (tag : String) (outer : Nat) : Decoder (String × Json) := fun j =>
  if !j.holdable || greatestDepth < outer + j.depth then none
  else
    match j with
    | .object fields =>
        let isTag := fun f : Lexeme × Json => textOf? f.1 == some tag
        match fields.filter isTag with
        | [(_, kind)] => (toText? kind).map (·, .object (fields.filter fun f => !isTag f))
        | _ => none
    | .array (kind :: rest) => (toText? kind).map (·, .array rest)
    | _ => none

-- One of a set of names: its text, or an object with the name as its one field and nothing in it.
def toName? (nothing : Json → Bool) : Decoder String
  | .string lexeme => textOf? lexeme
  | .object [(lexeme, value)] => if nothing value then textOf? lexeme else none
  | _ => none

def isNull : Json → Bool
  | .null => true
  | _ => false

-- Within a document that was held first, an empty object is nothing, too.
def isVoid : Json → Bool
  | .null => true
  | .object [] => true
  | _ => false

def toOneOf? {α : Type} (nothing : Json → Bool) (named : List (String × α)) : Decoder α := fun j => do
  let name ← toName? nothing j
  (named.find? fun n => n.1 = name).map (·.2)

end GridLoad.Json
