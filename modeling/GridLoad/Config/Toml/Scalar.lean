import GridLoad.Config.Value

/-!
Keys and single values of TOML documents: strings in their four forms, numbers and flags. A reader takes what
it reads off the front of a text.
-/

set_option autoImplicit false

namespace GridLoad.Config.Toml

abbrev Reader (α : Type) := List Char → Option (α × List Char)

def isGap (c : Char) : Bool := c = ' ' || c = '\t'

def skipGap (text : List Char) : List Char := text.dropWhile isGap

def skipBreak : List Char → Option (List Char)
  | '\n' :: rest => some rest
  | '\r' :: '\n' :: rest => some rest
  | _ => none

def isShown (c : Char) : Bool := c = '\t' || (0x20 ≤ c.toNat && c.toNat ≠ 0x7f)

def skipComment : List Char → List Char
  | '#' :: rest => rest.dropWhile isShown
  | text => text

def skipLineEnd (text : List Char) : Option (List Char) :=
  match skipComment (skipGap text) with
  | [] => some []
  | text => skipBreak text

-- Skips gaps, comments and breaks. The count bounds the number of lines.
def skipLines : Nat → List Char → List Char
  | 0, text => text
  | count + 1, text =>
      let text := skipComment (skipGap text)
      match skipBreak text with
      | some rest => skipLines count rest
      | none => text

def isBareChar (c : Char) : Bool := c.isAlphanum || c = '_' || c = '-'

def hexNumber? (digits : List Char) : Option Nat :=
  digits.foldlM (fun n c => (Json.hexValue? c).map (n * 16 + ·)) 0

def charOf? (code : Nat) : Option Char :=
  if code < 0xd800 || (0xe000 ≤ code && code < 0x110000) then some (Char.ofNat code) else none

def readEscape : Reader Char
  | 'b' :: rest => some ('\x08', rest)
  | 't' :: rest => some ('\t', rest)
  | 'n' :: rest => some ('\n', rest)
  | 'f' :: rest => some ('\x0c', rest)
  | 'r' :: rest => some ('\r', rest)
  | '"' :: rest => some ('"', rest)
  | '\\' :: rest => some ('\\', rest)
  | 'u' :: rest =>
      if rest.length < 4 then none
      else ((hexNumber? (rest.take 4)).bind charOf?).map (·, rest.drop 4)
  | 'U' :: rest =>
      if rest.length < 8 then none
      else ((hexNumber? (rest.take 8)).bind charOf?).map (·, rest.drop 8)
  | _ => none

-- A string in double quotes, after the first. The count bounds its length.
def readBasic : Nat → Reader (List Char)
  | 0, _ => none
  | _, '"' :: rest => some ([], rest)
  | count + 1, '\\' :: rest => do
      let (c, rest) ← readEscape rest
      let (more, rest) ← readBasic count rest
      some (c :: more, rest)
  | count + 1, c :: rest =>
      if isShown c then (readBasic count rest).map fun r => (c :: r.1, r.2) else none
  | _, [] => none

def readLiteral (text : List Char) : Option (List Char × List Char) :=
  let content := text.takeWhile fun c => isShown c && c ≠ '\''
  match text.drop content.length with
  | '\'' :: rest => some (content, rest)
  | _ => none

-- Up to two quotes that belong to a string before the three that end it.
def closing? (quote : Char) (text : List Char) : Option (List Char × List Char) :=
  let run := (text.take 5).takeWhile (· = quote)
  if 3 ≤ run.length then some (List.replicate (run.length - 3) quote, text.drop run.length) else none

def skipBlank : List Char → List Char
  | '\n' :: rest => skipBlank rest
  | '\r' :: '\n' :: rest => skipBlank rest
  | c :: rest => if isGap c then skipBlank rest else c :: rest
  | [] => []

-- What follows a backslash at the end of a line: all blanks and breaks up to the next character.
def skipFolded (text : List Char) : Option (List Char) :=
  match skipBreak (skipGap text) with
  | none => none
  | some rest => some (skipBlank rest)

-- A string of several lines, after its three quotes and a break.
def readLong (quote : Char) : Nat → Reader (List Char)
  | 0, _ => none
  | count + 1, text =>
      match closing? quote text with
      | some (more, rest) => some (more, rest)
      | none =>
          match text with
          | [] => none
          | c :: rest =>
              if c = '\\' && quote = '"' then
                match skipFolded rest with
                | some rest => readLong quote count rest
                | none => do
                    let (c, rest) ← readEscape rest
                    let (more, rest) ← readLong quote count rest
                    some (c :: more, rest)
              else
                match skipBreak (c :: rest) with
                | some rest => (readLong quote count rest).map fun r => ('\n' :: r.1, r.2)
                | none =>
                    if isShown c then (readLong quote count rest).map fun r => (c :: r.1, r.2) else none

def dropBreak (text : List Char) : List Char := (skipBreak text).getD text

def readString : Reader String := fun text =>
  let found := match text with
    | '"' :: '"' :: '"' :: rest => readLong '"' (rest.length + 1) (dropBreak rest)
    | '\'' :: '\'' :: '\'' :: rest => readLong '\'' (rest.length + 1) (dropBreak rest)
    | '"' :: rest => readBasic (rest.length + 1) rest
    | '\'' :: rest => readLiteral rest
    | _ => none
  found.map fun r => (String.ofList r.1, r.2)

-- A part of a key: bare, or a string on one line.
def readName : Reader String := fun text =>
  match text with
  | '"' :: rest => (readBasic (rest.length + 1) rest).map fun r => (String.ofList r.1, r.2)
  | '\'' :: rest => (readLiteral rest).map fun r => (String.ofList r.1, r.2)
  | text =>
      match text.takeWhile isBareChar with
      | [] => none
      | name => some (String.ofList name, text.dropWhile isBareChar)

def readKey : Nat → Reader (List String)
  | 0, _ => none
  | count + 1, text => do
      let (name, rest) ← readName (skipGap text)
      match skipGap rest with
      | '.' :: rest => (readKey count rest).map fun r => (name :: r.1, r.2)
      | rest => some ([name], rest)

-- Digits with single underscores between them.
def digits? (isDigit : Char → Bool) (text : List Char) : Option (List Char) :=
  let parts := (String.ofList text).splitOn "_"
  if parts.all fun part => !part.isEmpty && part.toList.all isDigit then
    some (text.filter (· ≠ '_'))
  else none

def decimal? (text : List Char) : Option (List Char) := digits? Char.isDigit text

def fitting (n : Int) : Option Value := if fitsSigned64 n then some (.whole n) else none

def based? (base : Nat) (text : List Char) : Option Value := do
  let digits ← digits? (fun c => (Json.hexValue? c).any (· < base)) text
  fitting (digits.foldl (fun (n : Nat) c => n * base + (Json.hexValue? c).getD 0) 0 : Nat)

-- Digits of a whole part, with no zero before others.
def wholePart? (text : List Char) : Option (List Char) := do
  let digits ← decimal? text
  if digits.length = 1 || digits.head? ≠ some '0' then some digits else none

def isExponentMark (c : Char) : Bool := c = 'e' || c = 'E'

def signed (text : List Char) : Bool × List Char :=
  match text with
  | '-' :: rest => (true, rest)
  | '+' :: rest => (false, rest)
  | rest => (false, rest)

def exponentPart? (text : List Char) : Option Int := do
  let (negative, digits) := signed text
  let digits ← decimal? digits
  let n : Int := Decimal.natOfDigits digits
  some (if negative then -n else n)

-- A number without its sign. One that is too large is refused, one that is too far below zero is not.
def number? (negative : Bool) (text : List Char) : Option Value :=
  let mantissa := text.takeWhile fun c => !isExponentMark c
  let tail := text.drop mantissa.length
  let whole := mantissa.takeWhile (· ≠ '.')
  let point := mantissa.drop whole.length
  match String.ofList text with
  | "inf" => some (.amount (if negative then -Decimal.infinity else Decimal.infinity))
  | "nan" => some (.amount (0.0 / 0.0))
  | _ => do
      let digits ← wholePart? whole
      let n := Decimal.natOfDigits digits
      match point, tail with
      | [], [] => fitting (if negative then -(n : Int) else n)
      | point, tail => do
          let fraction ← match point with
            | [] => some []
            | _ :: fraction => decimal? fraction
          let exponent ← match tail with
            | [] => some 0
            | _ :: exponent => exponentPart? exponent
          let x := Decimal.floatOfParts negative digits fraction exponent
          if x == Decimal.infinity then none else some (.amount x)

def wordValue? (text : List Char) : Option Value :=
  match text with
  | ['t', 'r', 'u', 'e'] => some (.flag true)
  | ['f', 'a', 'l', 's', 'e'] => some (.flag false)
  | '0' :: 'x' :: rest => based? 16 rest
  | '0' :: 'o' :: rest => based? 8 rest
  | '0' :: 'b' :: rest => based? 2 rest
  | text => number? (signed text).1 (signed text).2

def isWordChar (c : Char) : Bool := c.isAlphanum || "+-_.".contains c

def readWord : Reader Value := fun text =>
  (wordValue? (text.takeWhile isWordChar)).map (·, text.dropWhile isWordChar)

end GridLoad.Config.Toml
