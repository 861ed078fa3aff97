/-!
Labels written with letters, digits and hyphens only. The characters of that kind come first and end with a
hyphen, if there are any. Then each other character is a number that says how far to count on through pairs of
a code point and a place in the label; code points never decrease. Digits are of base 36, the least first, and
the digit that ends a number shows by being smaller than a threshold, which adapts to the numbers before.
-/

set_option autoImplicit false

namespace GridLoad.Web.Domain.Punycode

def digit? (c : Char) : Option Nat :=
  if 'a' ≤ c && c ≤ 'z' then some (c.toNat - 'a'.toNat)
  else if 'A' ≤ c && c ≤ 'Z' then some (c.toNat - 'A'.toNat)
  else if '0' ≤ c && c ≤ '9' then some (c.toNat - '0'.toNat + 26)
  else none

-- A digit below the threshold at place `k`, which counts in steps of 36, ends a number.
def threshold (bias k : Nat) : Nat := min 26 (max 1 (k - bias))

-- Divides by 35 until little is left, and says what is left and how often it divided.
def shrink : Nat → Nat → Nat × Nat
  | 0, delta => (delta, 0)
  | fuel + 1, delta =>
      if delta ≤ 455 then (delta, 0)
      else
        let (left, times) := shrink fuel (delta / 35)
        (left, times + 1)

def adapted (delta count : Nat) (first : Bool) : Nat :=
  let halved := if first then delta / 700 else delta / 2
  let raised := halved + halved / count
  let (left, times) := shrink raised raised
  36 * times + 36 * left / (left + 38)

/-- Numbers are words of 32 bits. -/
def greatest : Nat := 0xffffffff

-- Reads a number on top of `sum`, from place `k` on, where a digit has the given weight.
def number? (bias : Nat) : Nat → Nat → Nat → List Char → Option (Nat × List Char)
  | _, _, _, [] => none
  | k, weight, sum, c :: rest =>
      match digit? c with
      | none => none
      | some digit =>
          let sum := sum + digit * weight
          let bound := threshold bias k
          if greatest < sum then none
          else if digit < bound then some (sum, rest)
          else if greatest < weight * (36 - bound) then none
          else number? bias (k + 36) (weight * (36 - bound)) sum rest

structure State where
  label : List Char
  point : Nat
  place : Nat
  bias : Nat

def start (plain : List Char) : State := ⟨plain, 0x80, 0, 72⟩

def isScalar (n : Nat) : Bool := n < 0xd800 || (0xdfff < n && n < 0x110000)

-- Puts the character into the label that is `sum` pairs of code point and place away.
def State.insert? (s : State) (sum : Nat) : Option State :=
  let count := s.label.length + 1
  let point := s.point + sum / count
  let place := sum % count
  if !isScalar point then none
  else
    let label := s.label.take place ++ Char.ofNat point :: s.label.drop place
    some ⟨label, point, place + 1, adapted (sum - s.place) count (s.place = 0)⟩

-- Reads the numbers of a text. Each takes a character at least, so there are no more than those.
def readFrom : Nat → State → List Char → Option (List Char)
  | _, s, [] => some s.label
  | 0, _, _ => none
  | fuel + 1, s, text =>
      match number? s.bias 36 1 s.place text with
      | none => none
      | some (sum, rest) =>
          match s.insert? sum with
          | none => none
          | some s => readFrom fuel s rest

-- The plain characters before the last hyphen and the numbers after it. A hyphen in front ends nothing.
def split (text : List Char) : List Char × List Char :=
  let numbers := (text.reverse.takeWhile (· ≠ '-')).reverse
  let plain := text.take (text.length - numbers.length - 1)
  if plain.isEmpty then ([], text) else (plain, numbers)

def decode? (text : List Char) : Option (List Char) :=
  let (plain, numbers) := split text
  if plain.all fun c => c.toNat < 0x80 then readFrom numbers.length (start plain) numbers else none

end GridLoad.Web.Domain.Punycode
