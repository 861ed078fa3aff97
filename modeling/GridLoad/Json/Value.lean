import GridLoad.Json.Lexeme

/-!
JSON documents, and their compact text. Fields keep the order in which they are written.
-/

set_option autoImplicit false

namespace GridLoad

inductive Json where
  | null
  | bool (value : Bool)
  | number (lexeme : Json.Lexeme)
  | string (lexeme : Json.Lexeme)
  | array (items : List Json)
  | object (fields : List (Json.Lexeme × Json))
  deriving Inhabited

namespace Json

def str (text : String) : Json := .string (escape text)

def int (n : Int) : Json :=
  .number ((if n < 0 then ['-'] else []) ++ Nat.toDigits 10 n.natAbs)

def nat (n : Nat) : Json := .number (Nat.toDigits 10 n)

-- A finite double by its fewest digits, any other as `null`.
def float (x : Float) : Json :=
  if x.isFinite then .number (Decimal.stored.write x).toList else .null

-- A double also where it is not finite, which it then names.
def amount (x : Float) : Json :=
  if x.isNaN then str "NaN"
  else if x.isInf then str (if x > 0 then "inf" else "-inf")
  else float x

def option {α : Type} (encode : α → Json) : Option α → Json
  | none => .null
  | some a => encode a

def strings (texts : List String) : Json := .array (texts.map str)

def record (fields : List (String × Json)) : Json :=
  .object (fields.map fun f => (escape f.1, f.2))

def sparse (fields : List (String × Option Json)) : Json :=
  record (fields.filterMap fun f => f.2.map (f.1, ·))

def quotedLexeme (lexeme : Lexeme) : List Char := '"' :: lexeme ++ ['"']

mutual
def chars : Json → List Char
  | .null => ['n', 'u', 'l', 'l']
  | .bool true => ['t', 'r', 'u', 'e']
  | .bool false => ['f', 'a', 'l', 's', 'e']
  | .number lexeme => lexeme
  | .string lexeme => quotedLexeme lexeme
  | .array items => '[' :: itemChars items ++ [']']
  | .object fields => '\x7b' :: fieldChars fields ++ ['\x7d']
def itemChars : List Json → List Char
  | [] => []
  | [item] => chars item
  | item :: rest => chars item ++ ',' :: itemChars rest
def fieldChars : List (Lexeme × Json) → List Char
  | [] => []
  | [(name, value)] => quotedLexeme name ++ ':' :: chars value
  | (name, value) :: rest => quotedLexeme name ++ ':' :: chars value ++ ',' :: fieldChars rest
end

def text (j : Json) : String := String.ofList j.chars

mutual
def depth : Json → Nat
  | .array items => itemsDepth items + 1
  | .object fields => fieldsDepth fields + 1
  | _ => 0
def itemsDepth : List Json → Nat
  | [] => 0
  | item :: rest => max (depth item) (itemsDepth rest)
def fieldsDepth : List (Lexeme × Json) → Nat
  | [] => 0
  | (_, value) :: rest => max (depth value) (fieldsDepth rest)
end

end Json

end GridLoad
