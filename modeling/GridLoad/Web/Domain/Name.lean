import GridLoad.Text.Composed
import GridLoad.Web.Domain.Direction
import GridLoad.Web.Domain.Joining
import GridLoad.Web.Domain.Mapping
import GridLoad.Web.Domain.Punycode

/-!
Domain names: labels with points between them. `name?` gives the one spelling of a name, with which names
are compared; a label in it may still stand for another one with characters of its own.
-/

set_option autoImplicit false

namespace GridLoad.Web.Domain

def isDenied (c : Char) : Bool := c.toNat ≤ 0x20 || c.toNat = 0x7f || "#/:<>?@[\\]^|%".contains c

-- The most characters that are read of a label that stands for another one.
def longestCoded : Nat := 2000

-- The most characters of a label that another one can stand for.
def longestMeant : Nat := 1000

def afterCodeMark? (label : List Char) : Option (List Char) :=
  match label with
  | 'x' :: 'n' :: '-' :: '-' :: rest => some rest
  | _ => none

-- The label that is meant: itself, or the one it stands for, which has to be in its one spelling.
def meant? (label : List Char) : Option (List Char) :=
  match afterCodeMark? label with
  | none => some label
  | some coded =>
      if coded.isEmpty || coded.getLast? = some '-' || longestCoded < coded.length then none
      else (Punycode.decode? coded).filter fun meant => meant.all isAllowed && Text.isComposed meant

def isLabel (label : List Char) : Bool :=
  !label.any isDenied && !label.head?.any Text.isMark && showsJoints label &&
    (label.all (fun c => c.toNat < 0x80) || label.length ≤ longestMeant)

-- Where one label is written from right to left, all keep to one direction each.
def haveDirections (labels : List (List Char)) : Bool :=
  !labels.any (fun label => label.any isRightward) || labels.all hasOneDirection

def spelling? (text : List Char) : Option (List Char) :=
  let mapped := text.flatMap mapped
  if mapped.any refusedRanges.has then none else some (Text.composed mapped)

def labelsOf (name : List Char) : List (List Char) := ((String.ofList name).splitOn ".").map String.toList

def name? (text : String) : Option String :=
  match spelling? text.toList with
  | none => none
  | some name =>
      match (labelsOf name).mapM meant? with
      | none => none
      | some labels => if labels.all isLabel && haveDirections labels then some (String.ofList name) else none

end GridLoad.Web.Domain
