/-!
Media types: a kind and a subkind, and then parameters of which only the form is checked. Letters count alike
in both cases.
-/

set_option autoImplicit false

namespace GridLoad.Web

structure MediaType where
  kind : List Char
  subkind : List Char
  deriving DecidableEq

namespace MediaType

def isTokenChar (c : Char) : Bool := c.isAlphanum || "!#$%&'*+-.^_|~\x60".toList.contains c

def isQuotable (c : Char) : Bool := ' '.toNat ≤ c.toNat && c.toNat < 0x7f

def afterQuoted (text : List Char) : Option (List Char) :=
  match text.dropWhile (· = ' ') with
  | [] => some []
  | ';' :: rest => some rest
  | _ => none

-- Skips the value of a parameter. A quoted value has at least one character, which may be a quote.
def skipValue : List Char → Option (List Char)
  | '"' :: c :: rest =>
      if !isQuotable c then none
      else
        match rest.dropWhile fun c => isQuotable c && c ≠ '"' with
        | '"' :: rest => afterQuoted rest
        | _ => none
  | text =>
      match text.takeWhile isTokenChar, text.dropWhile isTokenChar with
      | _, [] => some []
      | _ :: _, ';' :: rest => some rest
      | _, _ => none

def skipParameter (text : List Char) : Option (List Char) :=
  match text.takeWhile isTokenChar, text.dropWhile isTokenChar with
  | _ :: _, '=' :: rest => skipValue rest
  | _, _ => none

def wellFormed : Nat → List Char → Bool
  | 0, text => text.isEmpty
  | count + 1, text =>
      match text.dropWhile (· = ' ') with
      | [] => true
      | text => (skipParameter text).any (wellFormed count)

def ofText? (text : String) : Option MediaType :=
  let chars := text.toList
  let kind := chars.takeWhile isTokenChar
  match kind, chars.dropWhile isTokenChar with
  | _ :: _, '/' :: rest =>
      let subkind := rest.takeWhile isTokenChar
      let lower := List.map Char.toLower
      match subkind, rest.dropWhile isTokenChar with
      | _, [] => some ⟨lower kind, lower subkind⟩
      | _ :: _, ';' :: parameters =>
          if wellFormed parameters.length parameters then some ⟨lower kind, lower subkind⟩ else none
      | _, _ => none
  | _, _ => none

-- The subkind without its suffix. A plus sign at the front starts no suffix.
def stem (m : MediaType) : List Char :=
  match m.subkind with
  | [] => []
  | c :: rest =>
      if rest.contains '+' then c :: ((rest.reverse.dropWhile (· ≠ '+')).drop 1).reverse else m.subkind

def suffix? (m : MediaType) : Option (List Char) :=
  let rest := m.subkind.drop 1
  if rest.contains '+' then some (rest.reverse.takeWhile (· ≠ '+')).reverse else none

def isJson (m : MediaType) : Bool :=
  m.kind = "application".toList && (m.stem = "json".toList || m.suffix? = some "json".toList)

end MediaType

end GridLoad.Web
