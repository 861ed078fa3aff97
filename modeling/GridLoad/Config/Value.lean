import GridLoad.Json.Decode
import GridLoad.Text.Lowercase

/-!
Values of a configuration. What is read for a plain setting is converted: a text can stand for a number or a
flag, a flag for a number, a number for a text.
-/

set_option autoImplicit false

namespace GridLoad.Config

inductive Value where
  | nothing
  | flag (value : Bool)
  | whole (value : Int)
  | amount (value : Float)
  | text (value : String)
  | list (items : List Value)
  -- Each name stands once.
  | table (fields : List (String × Value))
  deriving Inhabited

abbrev Decoder (α : Type) := Value → Option α

def isTrueWord (text : String) : Bool := ["true", "on", "yes"].contains (Text.toLower text)

def isFalseWord (text : String) : Bool := ["false", "off", "no"].contains (Text.toLower text)

-- Digits after an optional plus sign.
def wholeOfText? (text : String) : Option Nat :=
  let digits := match text.toList with
    | '+' :: rest => rest
    | chars => chars
  if !digits.isEmpty && digits.all Char.isDigit then some (Decimal.natOfDigits digits) else none

def exponent? : List Char → Option Int
  | [] => some 0
  | c :: rest =>
      let digits := match rest with
        | '+' :: digits => digits
        | '-' :: digits => digits
        | digits => digits
      if (c = 'e' || c = 'E') && !digits.isEmpty && digits.all Char.isDigit then some (Json.exponentOf rest)
      else none

-- A number without its sign: digits with a point among them, before or after them, or a name.
def magnitude? (text : List Char) : Option Float :=
  match String.ofList (text.map Char.toLower) with
  | "inf" => some Decimal.infinity
  | "infinity" => some Decimal.infinity
  | "nan" => some (0.0 / 0.0)
  | _ =>
      let whole := text.takeWhile Char.isDigit
      let (fraction, rest) := match text.dropWhile Char.isDigit with
        | '.' :: rest => (rest.takeWhile Char.isDigit, rest.dropWhile Char.isDigit)
        | rest => ([], rest)
      if whole.isEmpty && fraction.isEmpty then none
      else (exponent? rest).map (Decimal.floatOfParts false whole fraction)

def amountOfText? (text : String) : Option Float :=
  match text.toList with
  | '-' :: rest => (magnitude? rest).map fun x => -x
  | '+' :: rest => magnitude? rest
  | chars => magnitude? chars

namespace Value

def toFlag? : Decoder Bool
  | .flag b => some b
  | .whole n => some (n ≠ 0)
  | .amount x => some (x != 0)
  | .text t =>
      if t = "1" || isTrueWord t then some true
      else if t = "0" || isFalseWord t then some false
      else none
  | _ => none

-- A whole number without sign of at most `bits` bits. A number with a fraction is rounded.
def toWord? (bits : Nat) (v : Value) : Option Nat :=
  let found := match v with
    | .whole n => if 0 ≤ n then some n.toNat else none
    | .flag b => some b.toNat
    | .amount x => some x.round.toUInt64.toNat
    | .text t =>
        if isTrueWord t then some 1
        else if isFalseWord t then some 0
        else wholeOfText? t
    | _ => none
  found.filter (· < wordLimit bits)

def toAmount? : Decoder Float
  | .amount x => some x
  | .whole n => some (Float.ofInt n)
  | .flag b => some (if b then 1 else 0)
  | .text t =>
      if isTrueWord t then some 1
      else if isFalseWord t then some 0
      else amountOfText? t
  | _ => none

def toText? : Decoder String
  | .text t => some t
  | .flag b => some (if b then "true" else "false")
  | .whole n => some (toString n)
  | .amount x => some (Decimal.spoken.write x)
  | _ => none

def toList? {α : Type} (item : Decoder α) : Decoder (List α)
  | .list items => items.mapM item
  | _ => none

-- One of several names, in capitals or not: alone, or as the one name of a table.
def toOneOf? {α : Type} (named : List (String × α)) (v : Value) : Option α :=
  let found := match v with
    | .text t => some t
    | .table [(name, _)] => some name
    | _ => none
  found.bind fun name => (named.find? fun n => n.1 = Text.toLower name).map (·.2)

def plainText? : Decoder String
  | .text t => some t
  | _ => none

def plainWord? (bits : Nat) : Decoder Nat
  | .whole n => if 0 ≤ n ∧ n < (wordLimit bits : Int) then some n.toNat else none
  | _ => none

def plainAmount? : Decoder Float
  | .amount x => some x
  | .whole n => some (Float.ofInt n)
  | _ => none

-- Fields of a table by name, or of a list in a declared order.
def fields? (names : List String) : Decoder (List (String × Value))
  | .table fields => some fields
  | .list items => some (names.zip items)
  | _ => none

mutual
-- A document as a configuration. A whole number that is too large counts as one with a fraction.
def ofJson : Json → Value
  | .null => .nothing
  | .bool b => .flag b
  | .number lexeme =>
      match Json.integerOf? lexeme with
      | some n =>
          if fitsSigned64 n then .whole n else .amount ((Json.floatOf? lexeme).getD 0)
      | none => .amount ((Json.floatOf? lexeme).getD 0)
  | .string lexeme => .text ((Json.textOf? lexeme).getD "")
  | .array items => .list (ofItems items)
  | .object fields => .table (ofFields fields [])
def ofItems : List Json → List Value
  | [] => []
  | item :: rest => ofJson item :: ofItems rest
-- Of fields of one name the last stays.
def ofFields : List (Json.Lexeme × Json) → List (String × Value) → List (String × Value)
  | [], done => done
  | (lexeme, value) :: rest, done =>
      let name := (Json.textOf? lexeme).getD ""
      ofFields rest ((done.filter fun f => f.1 ≠ name) ++ [(name, ofJson value)])
end

end Value

def defaulted {α : Type} (fields : List (String × Value)) (name : String) (fallback : α) (item : Decoder α) :
    Option α :=
  match fields.lookup name with
  | some v => item v
  | none => some fallback

def required {α : Type} (fields : List (String × Value)) (name : String) (item : Decoder α) : Option α :=
  (fields.lookup name).bind item

-- Splits a table of several kinds into its kind and its other fields.
def tagged? (tag : String) (names : String → List String) : Decoder (String × List (String × Value))
  | .table fields => do
      let kind ← required fields tag Value.plainText?
      some (kind, fields)
  | .list (kind :: rest) => do
      let kind ← Value.plainText? kind
      if rest.length ≤ (names kind).length then some (kind, (names kind).zip rest) else none
  | _ => none

end GridLoad.Config
