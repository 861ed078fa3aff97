import GridLoad.Text.Canonical
import GridLoad.Text.Mark

/-!
The composed form of a text: every character is taken apart, marks are put in the order of their classes, and
what can be made of neighbours is. Texts that mean the same have one composed form.
-/

set_option autoImplicit false

namespace GridLoad.Text

def partsWithin : Nat → Char → List Char
  | 0, c => [c]
  | depth + 1, c =>
      match decomposition? c with
      | none => [c]
      | some parts => parts.flatMap (partsWithin depth)

-- More steps than any character takes to its last parts.
def deepestParts : Nat := 6

def parts (c : Char) : List Char := partsWithin deepestParts c

-- Puts a character before the marks of its class and of greater ones.
def placeMark (c : Char) : List Char → List Char
  | d :: rest =>
      if 0 < combiningClass d && combiningClass d < combiningClass c then d :: placeMark c rest else c :: d :: rest
  | [] => [c]

-- Marks in the order of their classes; those of one class keep theirs.
def orderMarks (text : List Char) : List Char := text.foldr placeMark []

-- Composes `base` with what follows it. The marks in `kept`, the latest first, did not become part of it; a
-- mark can reach it only past marks of smaller classes.
def composeFrom (base : Char) (kept : List Char) : List Char → List Char
  | [] => base :: kept.reverse
  | c :: rest =>
      let reaches := kept.head?.all fun mark => combiningClass mark < combiningClass c
      match if reaches then composition? base c else none with
      | some whole => composeFrom whole kept rest
      | none =>
          if combiningClass c = 0 then base :: kept.reverse ++ composeFrom c [] rest
          else composeFrom base (c :: kept) rest

-- The composed form. Marks before the first character that is none stay as they are.
def composed (text : List Char) : List Char :=
  let apart := orderMarks (text.flatMap parts)
  let leading := apart.takeWhile fun c => combiningClass c ≠ 0
  match apart.dropWhile fun c => combiningClass c ≠ 0 with
  | [] => leading
  | base :: rest => leading ++ composeFrom base [] rest

def isComposed (text : List Char) : Bool := composed text = text

end GridLoad.Text
