import GridLoad.Decimal.Reading
import GridLoad.Web.Domain.Name
import GridLoad.Web.Percent

/-!
Absolute web addresses: which texts are one. Every address has a scheme; those of the web's own schemes have
a host, which is a name or a number of either version of the internet protocol.
-/

set_option autoImplicit false

namespace GridLoad.Web

inductive SchemeKind where
  -- A host is required, and a backslash counts as a slash.
  | web
  | file
  | free
  deriving DecidableEq

def SchemeKind.ofScheme (scheme : String) : SchemeKind :=
  if ["http", "https", "ws", "wss", "ftp"].contains scheme then .web
  else if scheme = "file" then .file
  else .free

namespace Address

def isSlash (k : SchemeKind) (c : Char) : Bool := c = '/' || (k ≠ .free && c = '\\')

def endsAuthority (k : SchemeKind) (c : Char) : Bool := isSlash k c || c = '?' || c = '#'

def isControlOrBlank (c : Char) : Bool := c.toNat ≤ 0x20

-- The text without blanks at its ends and without breaks and tabs anywhere.
def clean (text : List Char) : List Char :=
  let trimmed := ((text.dropWhile isControlOrBlank).reverse.dropWhile isControlOrBlank).reverse
  trimmed.filter fun c => c ≠ '\t' && c ≠ '\n' && c ≠ '\r'

def isSchemeChar (c : Char) : Bool := c.isAlphanum || c = '+' || c = '-' || c = '.'

def scheme? (text : List Char) : Option (String × List Char) :=
  match text with
  | c :: _ =>
      match c.isAlpha, text.dropWhile isSchemeChar with
      | true, ':' :: rest => some (String.ofList ((text.takeWhile isSchemeChar).map Char.toLower), rest)
      | _, _ => none
  | [] => none

-- Reads a number of an address of version 4: decimal, or octal after a zero, or hexadecimal.
def number? (text : List Char) : Option Nat :=
  let (base, digits) := match text with
    | '0' :: 'x' :: rest => (16, rest)
    | '0' :: 'X' :: rest => (16, rest)
    | '0' :: c :: rest => (8, c :: rest)
    | text => (10, text)
  let values := digits.map fun c => (Json.hexValue? c).getD 16
  if text.isEmpty || !values.all (· < base) then none
  else some (values.foldl (fun n v => n * base + v) 0)

-- Labels of a name, without the empty one that a point at the end leaves.
def labels (name : String) : List String :=
  let parts := name.splitOn "."
  if parts.getLast? = some "" then parts.dropLast else parts

def endsInNumber (name : String) : Bool :=
  match (labels name).getLast? with
  | none => false
  | some last => !last.isEmpty && (last.toList.all Char.isDigit || (number? last.toList).isSome)

-- An address of version 4 in up to four parts, of which the last fills what is left.
def isVersion4 (name : String) : Bool :=
  let parts := labels name
  match parts.mapM fun part => number? part.toList with
  | none => false
  | some numbers =>
      numbers.length ≤ 4 && numbers.dropLast.all (· ≤ 255) &&
        (numbers.getLast?).any fun last => last < Nat.pow 256 (5 - numbers.length)

def isDotted (text : String) : Bool :=
  let parts := text.splitOn "."
  parts.length = 4 && parts.all fun part =>
    !part.isEmpty && part.toList.all Char.isDigit && (part.length = 1 || !part.startsWith "0") &&
      Decimal.natOfDigits part.toList ≤ 255

def isPiece (text : String) : Bool :=
  !text.isEmpty && text.length ≤ 4 && text.toList.all fun c => (Json.hexValue? c).isSome

-- How many pieces of sixteen bits stand in a part of an address of version 6; at its end an address of
-- version 4 may stand for two.
def pieces? (dottedEnd : Bool) (text : String) : Option Nat :=
  if text.isEmpty then some 0
  else
    let parts := text.splitOn ":"
    if parts.all isPiece then some parts.length
    else if dottedEnd && parts.dropLast.all isPiece && (parts.getLast?).any isDotted then
      some (parts.length + 1)
    else none

-- Eight pieces, or fewer around a gap that is written as two colons.
def isVersion6 (text : String) : Bool :=
  match text.splitOn "::" with
  | [whole] => pieces? true whole = some 8
  | [left, right] =>
      match pieces? false left, pieces? true right with
      | some l, some r => l + r ≤ 7
      | _, _ => false
  | _ => false

def isForbidden (c : Char) : Bool := c = '\x00' || " #/:<>?@[\\]^|".contains c

def afterBracket? (host : List Char) : Option (List Char) :=
  match host with
  | '[' :: rest => some rest
  | _ => none

def isHost (host : List Char) : Bool :=
  match afterBracket? host with
  | some rest => rest.getLast? = some ']' && isVersion6 (String.ofList rest.dropLast)
  | none =>
      match (segmentText? (String.ofList host)).bind Domain.name? with
      | none => false
      | some name => !name.isEmpty && (!endsInNumber name || isVersion4 name)

def isFreeHost (host : List Char) : Bool :=
  match afterBracket? host with
  | some rest => rest.getLast? = some ']' && isVersion6 (String.ofList rest.dropLast)
  | none => !host.any isForbidden

def isPort (text : List Char) : Bool :=
  let digits := text.takeWhile (· ≠ '\\')
  digits.all Char.isDigit && Decimal.natOfDigits digits ≤ 65535

-- The host, up to a colon outside of brackets, and what follows.
def splitHost : Bool → List Char → List Char × List Char
  | _, [] => ([], [])
  | inside, c :: rest =>
      if c = ':' && !inside then ([], c :: rest)
      else
        let inside := if c = '[' then true else if c = ']' then false else inside
        let (host, after) := splitHost inside rest
        (c :: host, after)

-- What names a user, up to the last such mark, if one stands there, and what follows it.
def splitUser (text : List Char) : Option (List Char) × List Char :=
  let host := (text.reverse.takeWhile (· ≠ '@')).reverse
  if text.contains '@' then (some (text.take (text.length - host.length - 1)), host) else (none, host)

def isNobody (user : List Char) : Bool := user = [] || user = [':']

-- Host and port, after what names a user; `more` says that something follows them. An empty host has neither
-- user nor port, and before it not even the mark of a user may stand, save at the end of all.
def isAuthority (k : SchemeKind) (text : List Char) (more : Bool) : Bool :=
  let (user?, rest) := splitUser text
  let (host, after) := splitHost false rest
  let hostIsFine := if k = .free then isFreeHost host else isHost host
  let userIsFine :=
    match user? with
    | none => true
    | some user => !host.isEmpty || (isNobody user && !(user.isEmpty && rest.isEmpty && more))
  hostIsFine && userIsFine &&
    match after with
    | ':' :: port => !host.isEmpty && isPort port
    | _ => true

-- A drive letter, which is no host.
def isDrive (text : List Char) : Bool :=
  match text with
  | [c, mark] => c.isAlpha && (mark = ':' || mark = '|')
  | _ => false

def isFileRest (rest : List Char) : Bool :=
  match rest with
  | a :: b :: rest =>
      if isSlash .file a && isSlash .file b then
        let host := rest.takeWhile fun c => !endsAuthority .file c
        host.isEmpty || isDrive host || isHost host
      else true
  | _ => true

end Address

open Address in
def isAddress (text : String) : Bool :=
  match scheme? (clean text.toList) with
  | none => false
  | some (scheme, rest) =>
      match SchemeKind.ofScheme scheme with
      | .web =>
          let rest := rest.dropWhile (isSlash .web)
          let authority := rest.takeWhile fun c => !endsAuthority .web c
          isAuthority .web authority (authority.length < rest.length)
      | .file => isFileRest rest
      | .free =>
          match rest with
          | '/' :: '/' :: rest =>
              let authority := rest.takeWhile fun c => !endsAuthority .free c
              isAuthority .free authority (authority.length < rest.length)
          | _ => true

end GridLoad.Web
