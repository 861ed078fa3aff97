import GridLoad.Json.Value

/-!
Reading JSON text: one value with blanks around it and nothing else. The grammar is the strict one, without
comments, trailing commas, leading zeros or control characters inside strings.
-/

set_option autoImplicit false

namespace GridLoad.Json

def isSpace (c : Char) : Bool := c = ' ' || c = '\n' || c = '\t' || c = '\r'

def skipSpace (text : List Char) : List Char := text.dropWhile isSpace

-- Characters that a string may not hold as they are. A stray byte may stand in it.
def isRefused (c : Char) : Bool := (c.toNat < 0x20 && c ≠ Text.strayMark) || c = '\\'

def readString : List Char → Option (Lexeme × List Char)
  | [] => none
  | '"' :: rest => some ([], rest)
  | '\\' :: 'u' :: a :: b :: c :: d :: rest =>
      match hexFour? a b c d with
      | none => none
      | some _ => (readString rest).map fun r => ('\\' :: 'u' :: a :: b :: c :: d :: r.1, r.2)
  | '\\' :: c :: rest =>
      match simpleEscape? c with
      | none => none
      | some _ => (readString rest).map fun r => ('\\' :: c :: r.1, r.2)
  | c :: rest =>
      if isRefused c then none else (readString rest).map fun r => (c :: r.1, r.2)

def readDigits (text : List Char) : Option (List Char × List Char) :=
  let digits := text.takeWhile Char.isDigit
  if digits.isEmpty then none else some (digits, text.dropWhile Char.isDigit)

-- Digits of a whole number, with no zero before others.
def readWhole : List Char → Option (List Char × List Char)
  | '0' :: rest =>
      match rest with
      | c :: _ => if c.isDigit then none else some (['0'], rest)
      | [] => some (['0'], rest)
  | text => readDigits text

def readFraction : List Char → Option (List Char × List Char)
  | '.' :: rest => (readDigits rest).map fun r => ('.' :: r.1, r.2)
  | text => some ([], text)

def readExponent : List Char → Option (List Char × List Char)
  | c :: rest =>
      if c = 'e' || c = 'E' then
        match rest with
        | s :: digits =>
            if s = '+' || s = '-' then (readDigits digits).map fun r => (c :: s :: r.1, r.2)
            else (readDigits rest).map fun r => (c :: r.1, r.2)
        | [] => none
      else some ([], c :: rest)
  | [] => some ([], [])

def readSign : List Char → List Char × List Char
  | '-' :: rest => (['-'], rest)
  | rest => ([], rest)

def readNumber (text : List Char) : Option (Lexeme × List Char) := do
  let (sign, text) := readSign text
  let (whole, text) ← readWhole text
  let (fraction, text) ← readFraction text
  let (exponent, text) ← readExponent text
  some (sign ++ whole ++ fraction ++ exponent, text)

mutual
/-- A value at the front of the text. The count bounds the nesting and the length, which the text's own
length bounds in turn. -/
def readValue : Nat → List Char → Option (Json × List Char)
  | 0, _ => none
  | count + 1, text =>
      match skipSpace text with
      | 'n' :: 'u' :: 'l' :: 'l' :: rest => some (.null, rest)
      | 't' :: 'r' :: 'u' :: 'e' :: rest => some (.bool true, rest)
      | 'f' :: 'a' :: 'l' :: 's' :: 'e' :: rest => some (.bool false, rest)
      | '"' :: rest => (readString rest).map fun r => (.string r.1, r.2)
      | '[' :: rest =>
          match skipSpace rest with
          | ']' :: rest => some (.array [], rest)
          | rest => (readItems count rest).map fun r => (.array r.1, r.2)
      | '\x7b' :: rest =>
          match skipSpace rest with
          | '\x7d' :: rest => some (.object [], rest)
          | rest => (readFields count rest).map fun r => (.object r.1, r.2)
      | text => (readNumber text).map fun r => (.number r.1, r.2)
def readItems : Nat → List Char → Option (List Json × List Char)
  | 0, _ => none
  | count + 1, text => do
      let (item, rest) ← readValue count text
      match skipSpace rest with
      | ',' :: rest => (readItems count rest).map fun r => (item :: r.1, r.2)
      | ']' :: rest => some ([item], rest)
      | _ => none
def readFields : Nat → List Char → Option (List (Lexeme × Json) × List Char)
  | 0, _ => none
  | count + 1, text =>
      match skipSpace text with
      | '"' :: rest => do
          let (name, rest) ← readString rest
          match skipSpace rest with
          | ':' :: rest => do
              let (value, rest) ← readValue count rest
              match skipSpace rest with
              | ',' :: rest => (readFields count rest).map fun r => ((name, value) :: r.1, r.2)
              | '\x7d' :: rest => some ([(name, value)], rest)
              | _ => none
          | _ => none
      | _ => none
end

def ofChars? (text : List Char) : Option Json := do
  let (value, rest) ← readValue (2 * text.length + 2) text
  if rest.all isSpace then some value else none

def leadingOf? (text : List Char) : Option Json :=
  (readValue (2 * text.length + 2) text).map (·.1)

def ofText? (text : String) : Option Json := ofChars? (Text.documentChars text)

def ofBytes? (bytes : List UInt8) : Option Json := ofChars? (Text.charsOfBytes bytes)

end GridLoad.Json
