import GridLoad.Json.Lexeme
import GridLoad.Text.Utf8

/-!
Texts inside web addresses: a percent sign with two hexadecimal digits stands for a byte, and any other
character for itself. In a query a plus sign stands for a blank.
-/

set_option autoImplicit false

namespace GridLoad.Web

def parts (mark : Char) (text : String) : List String := (text.toList.splitOn mark).map String.ofList

def hexByte? (b : UInt8) : Option Nat := Json.hexValue? (Char.ofNat b.toNat)

def percentDecode : List UInt8 → List UInt8
  | 0x25 :: a :: b :: rest =>
      match hexByte? a, hexByte? b with
      | some high, some low => UInt8.ofNat (high * 16 + low) :: percentDecode rest
      | _, _ => 0x25 :: percentDecode (a :: b :: rest)
  | b :: rest => b :: percentDecode rest
  | [] => []

def segmentText? (segment : String) : Option String := Text.ofBytes? (percentDecode (Text.toBytes segment))

def queryText (raw : List Char) : String :=
  let blanked := raw.map fun c => if c = '+' then ' ' else c
  Text.ofBytesLossy (percentDecode (Text.toBytes (String.ofList blanked)))

def queryPairs (query : String) : List (String × String) :=
  ((parts '&' query).filter (· ≠ "")).map fun part =>
    let chars := part.toList
    (queryText (chars.takeWhile (· ≠ '=')), queryText ((chars.dropWhile (· ≠ '=')).drop 1))

-- The one value of a name, which may not stand twice.
def oneValue (pairs : List (String × String)) (name : String) : Except Unit (Option String) :=
  match (pairs.filter fun p => p.1 = name).map (·.2) with
  | [] => .ok none
  | [value] => .ok (some value)
  | _ => .error ()

end GridLoad.Web
