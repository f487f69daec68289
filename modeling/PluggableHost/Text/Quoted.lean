import PluggableHost.Text.Shapeless

namespace PluggableHost.Text

/-!
# Quoted text

Messages show foreign text between quotation marks, with every character that
could end the quotation, change a line, or hide, written as an escape. Two
texts that are quoted alike are equal.
-/

/-- The digits of a code point in base sixteen, lower case, without leading zeros. -/
def hexDigits (code : Nat) : List Char :=
  Nat.toDigits 16 code

/-- A character inside a quoted text. -/
def quotedChar (character : Char) : List Char :=
  match character with
  | '"' => ['\\', '"']
  | '\\' => ['\\', '\\']
  | '\n' => ['\\', 'n']
  | '\r' => ['\\', 'r']
  | '\t' => ['\\', 't']
  | '\x00' => ['\\', '0']
  | other =>
      if isShapeless other.toNat then
        ['\\', 'u', '\x7b'] ++ hexDigits other.toNat ++ ['\x7d']
      else
        [other]

/-- The quoted form of a text, quotation marks included. -/
def quoted (text : String) : String :=
  String.ofList ('"' :: text.toList.flatMap quotedChar ++ ['"'])

/-- Quoted texts in brackets, with a comma and a blank between neighbours. -/
def quotedList (texts : List String) : String :=
  "[" ++ String.intercalate ", " (texts.map quoted) ++ "]"

end PluggableHost.Text
