import GridLoad.Text.Printable

/-!
Text in double quotes, as messages and log fields show it: the quote, the backslash and controls are
escaped, and a character that cannot be shown stands as its code point in braces.
-/

set_option autoImplicit false

namespace GridLoad.Text

def hexText (n : Nat) : List Char := Nat.toDigits 16 n

def quotedChar (c : Char) : List Char :=
  match c with
  | '\x00' => ['\\', '0']
  | '\t' => ['\\', 't']
  | '\r' => ['\\', 'r']
  | '\n' => ['\\', 'n']
  | '\\' => ['\\', '\\']
  | '"' => ['\\', '"']
  | c =>
      if isExtending c || !isPrintable c then
        ['\\', 'u', '\x7b'] ++ hexText c.toNat ++ ['\x7d']
      else [c]

def quoted (text : String) : String :=
  String.ofList ('"' :: text.toList.flatMap quotedChar ++ ['"'])

def quotedOption : Option String → String
  | none => "None"
  | some text => "Some(" ++ quoted text ++ ")"

def quotedList (texts : List String) : String :=
  "[" ++ ", ".intercalate (texts.map quoted) ++ "]"

end GridLoad.Text
