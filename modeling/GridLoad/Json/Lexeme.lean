import GridLoad.Decimal.Layout
import GridLoad.Decimal.Stepwise
import GridLoad.Text.Utf8

/-!
Written forms of the scalars of JSON. A string's lexeme is what stands between its quotes, escapes
included; a number's is its digits and signs. Both keep what was written, so that a value that is skipped
need not be one that can be held.
-/

set_option autoImplicit false

namespace GridLoad.Json

abbrev Lexeme := List Char

def escapeChar (c : Char) : Lexeme :=
  match c with
  | '"' => ['\\', '"']
  | '\\' => ['\\', '\\']
  | '\x08' => ['\\', 'b']
  | '\x0c' => ['\\', 'f']
  | '\n' => ['\\', 'n']
  | '\r' => ['\\', 'r']
  | '\t' => ['\\', 't']
  | c =>
      if c.toNat < 0x20 then
        ['\\', 'u', '0', '0', Nat.digitChar (c.toNat / 16), Nat.digitChar (c.toNat % 16)]
      else [c]

def escape (text : String) : Lexeme := text.toList.flatMap escapeChar

def hexValue? (c : Char) : Option Nat :=
  if c.isDigit then some (c.toNat - '0'.toNat)
  else if 'a' ≤ c ∧ c ≤ 'f' then some (c.toNat - 'a'.toNat + 10)
  else if 'A' ≤ c ∧ c ≤ 'F' then some (c.toNat - 'A'.toNat + 10)
  else none

def hexFour? (a b c d : Char) : Option Nat := do
  let a ← hexValue? a
  let b ← hexValue? b
  let c ← hexValue? c
  let d ← hexValue? d
  some (((a * 16 + b) * 16 + c) * 16 + d)

def isHighSurrogate (unit : Nat) : Bool := 0xd800 ≤ unit && unit < 0xdc00

def isLowSurrogate (unit : Nat) : Bool := 0xdc00 ≤ unit && unit < 0xe000

def simpleEscape? : Char → Option Char
  | '"' => some '"'
  | '\\' => some '\\'
  | '/' => some '/'
  | 'b' => some '\x08'
  | 'f' => some '\x0c'
  | 'n' => some '\n'
  | 'r' => some '\r'
  | 't' => some '\t'
  | _ => none

-- Characters that a lexeme stands for. An unpaired surrogate and a stray byte stand for none.
def unescape : Lexeme → Option (List Char)
  | [] => some []
  | '\\' :: 'u' :: a :: b :: c :: d :: '\\' :: 'u' :: e :: f :: g :: h :: rest =>
      match hexFour? a b c d with
      | none => none
      | some unit =>
          if isHighSurrogate unit then
            match hexFour? e f g h with
            | none => none
            | some low =>
                if isLowSurrogate low then
                  (unescape rest).map
                    (Char.ofNat (0x10000 + (unit - 0xd800) * 0x400 + (low - 0xdc00)) :: ·)
                else none
          else if isLowSurrogate unit then none
          else (unescape ('\\' :: 'u' :: e :: f :: g :: h :: rest)).map (Char.ofNat unit :: ·)
  | '\\' :: 'u' :: a :: b :: c :: d :: rest =>
      match hexFour? a b c d with
      | none => none
      | some unit =>
          if isHighSurrogate unit || isLowSurrogate unit then none
          else (unescape rest).map (Char.ofNat unit :: ·)
  | '\\' :: c :: rest =>
      match simpleEscape? c with
      | none => none
      | some c => (unescape rest).map (c :: ·)
  | '\\' :: [] => none
  | c :: rest => if c = Text.strayMark then none else (unescape rest).map (c :: ·)

def textOf? (lexeme : Lexeme) : Option String := (unescape lexeme).map String.ofList

structure Numeral where
  negative : Bool
  whole : List Char
  fraction : List Char
  exponent : Option Int
  -- No fraction and no exponent is written.
  plain : Bool

def exponentOf : List Char → Int
  | '-' :: digits => -(Decimal.natOfDigits digits : Int)
  | '+' :: digits => Decimal.natOfDigits digits
  | digits => Decimal.natOfDigits digits

def signOf : Lexeme → Bool × List Char
  | '-' :: rest => (true, rest)
  | rest => (false, rest)

def fractionOf : List Char → List Char × List Char
  | '.' :: rest => (rest.takeWhile Char.isDigit, rest.dropWhile Char.isDigit)
  | rest => ([], rest)

def Numeral.ofLexeme (lexeme : Lexeme) : Numeral :=
  let (negative, body) := signOf lexeme
  let tail := body.dropWhile Char.isDigit
  let (fraction, exponentPart) := fractionOf tail
  let exponent := match exponentPart with
    | _ :: digits => some (exponentOf digits)
    | [] => none
  ⟨negative, body.takeWhile Char.isDigit, fraction, exponent, tail.isEmpty⟩

-- The double that is read for a number, where that is finite.
def floatOf? (lexeme : Lexeme) : Option Float :=
  let n := Numeral.ofLexeme lexeme
  Decimal.stepwise? n.negative n.whole n.fraction (n.exponent.getD 0)

-- The nearest double; an infinity where the number is too large.
def nearestOf (lexeme : Lexeme) : Float :=
  let n := Numeral.ofLexeme lexeme
  Decimal.floatOfParts n.negative n.whole n.fraction (n.exponent.getD 0)

-- The integer written without fraction or exponent. Negative zero is no integer.
def integerOf? (lexeme : Lexeme) : Option Int :=
  let n := Numeral.ofLexeme lexeme
  let magnitude := Decimal.natOfDigits n.whole
  if !n.plain then none
  else if n.negative then (if magnitude = 0 then none else some (-(magnitude : Int)))
  else some magnitude

end GridLoad.Json
