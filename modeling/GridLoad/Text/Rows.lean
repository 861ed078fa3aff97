/-!
Tables in which consecutive characters have their values one after another in a text.
-/

set_option autoImplicit false

namespace GridLoad.Text

-- For each row the code point it begins with, in increasing order, and the values from there on.
abbrev Rows := List (Nat × String)

def Rows.row? (rows : Rows) (c : Char) : Option (Nat × String) :=
  (rows.takeWhile fun row => row.1 ≤ c.toNat).getLast?

def Rows.letters? (rows : Rows) (width : Nat) (c : Char) : Option (List Char) :=
  match rows.row? c with
  | none => none
  | some (first, values) =>
      let value := (values.toList.drop ((c.toNat - first) * width)).take width
      if value.isEmpty then none else some value

def Rows.word? (rows : Rows) (c : Char) : Option (List Char) :=
  match rows.row? c with
  | none => none
  | some (first, values) => ((values.splitOn " ")[c.toNat - first]?).map String.toList

end GridLoad.Text
