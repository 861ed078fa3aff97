/-!
Texts from bytes. A byte that belongs to no character can be left standing as a mark, so that a document with
such bytes inside a string that is skipped can still be read.
-/

set_option autoImplicit false

namespace GridLoad.Text

def isTail (b : UInt8) : Bool := 0x80 ≤ b && b ≤ 0xbf

def tailBits (b : UInt8) : Nat := b.toNat % 64

def leading? : List UInt8 → Option (Char × Nat)
  | [] => none
  | a :: rest =>
      if a < 0x80 then some (Char.ofNat a.toNat, 1)
      else
        match rest with
        | b :: rest =>
            if !isTail b then none
            else if 0xc2 ≤ a && a ≤ 0xdf then some (Char.ofNat (a.toNat % 32 * 64 + tailBits b), 2)
            else
              match rest with
              | c :: rest =>
                  if !isTail c then none
                  else if (a = 0xe0 && 0xa0 ≤ b) || (0xe1 ≤ a && a ≤ 0xec) || (a = 0xed && b ≤ 0x9f) ||
                      a = 0xee || a = 0xef then
                    some (Char.ofNat ((a.toNat % 16 * 64 + tailBits b) * 64 + tailBits c), 3)
                  else
                    match rest with
                    | d :: _ =>
                        if !isTail d then none
                        else if (a = 0xf0 && 0x90 ≤ b) || (0xf1 ≤ a && a ≤ 0xf3) || (a = 0xf4 && b ≤ 0x8f) then
                          some (Char.ofNat
                            (((a.toNat % 8 * 64 + tailBits b) * 64 + tailBits c) * 64 + tailBits d), 4)
                        else none
                    | [] => none
              | [] => none
        | [] => none

-- Stands for a byte that belongs to no character.
def strayMark : Char := '\x00'

-- A character of a document as itself. One that looks like the mark becomes another control character, and
-- documents refuse all of those alike.
def unmarked (c : Char) : Char := if c = strayMark then '\x01' else c

def mend : Nat → List UInt8 → List Char
  | 0, _ => []
  | _, [] => []
  | count + 1, b :: rest =>
      match leading? (b :: rest) with
      | some (c, size) => unmarked c :: mend count ((b :: rest).drop size)
      | none => strayMark :: mend count rest

-- How many bytes follow a first one, and the bounds of the first of them.
def followers (a : UInt8) : Nat × UInt8 × UInt8 :=
  if 0xc2 ≤ a && a ≤ 0xdf then (1, 0x80, 0xbf)
  else if a = 0xe0 then (2, 0xa0, 0xbf)
  else if a = 0xed then (2, 0x80, 0x9f)
  else if 0xe1 ≤ a && a ≤ 0xef then (2, 0x80, 0xbf)
  else if a = 0xf0 then (3, 0x90, 0xbf)
  else if 0xf1 ≤ a && a ≤ 0xf3 then (3, 0x80, 0xbf)
  else if a = 0xf4 then (3, 0x80, 0x8f)
  else (0, 0xff, 0)

-- Bytes at the front that a character could have begun with, at least one.
def brokenSize : List UInt8 → Nat
  | a :: b :: rest =>
      let (count, least, greatest) := followers a
      if least ≤ b && b ≤ greatest then 2 + ((rest.take (count - 1)).takeWhile isTail).length else 1
  | _ => 1

def replaceBroken : Nat → List UInt8 → List Char
  | 0, _ => []
  | _, [] => []
  | count + 1, b :: rest =>
      match leading? (b :: rest) with
      | some (c, size) => c :: replaceBroken count ((b :: rest).drop size)
      | none => '\ufffd' :: replaceBroken count ((b :: rest).drop (brokenSize (b :: rest)))

/-- The text of a byte string, with a replacement character for each begun character. -/
def ofBytesLossy (bytes : List UInt8) : String := String.ofList (replaceBroken bytes.length bytes)

def ofBytes? (bytes : List UInt8) : Option String := String.fromUTF8? ⟨bytes.toArray⟩

def toBytes (text : String) : List UInt8 := text.toUTF8.toList

def documentChars (text : String) : List Char := text.toList.map unmarked

-- Characters of a document that is given by its bytes, with marks for stray ones.
def charsOfBytes (bytes : List UInt8) : List Char :=
  match ofBytes? bytes with
  | some text => documentChars text
  | none => mend bytes.length bytes

end GridLoad.Text
