import PluggableHost.Text.Digits

namespace PluggableHost.Toml

open PluggableHost.Text

/-!
# Quoted text in a document

Text stands between one or three quotation marks. Between double marks a
backslash starts an escape, between single ones it stands for itself. Three
marks enclose several lines: a line break right after them does not count, and
one or two further marks before the closing ones belong to the text.
-/

/-- What a reader understood, and the text after it. -/
abbrev Reading (α : Type) := α × List Char

/-- The characters that text may hold: no control characters but the tab. -/
def isPrintable (character : Char) : Bool :=
  character = '\t' || (character.toNat ≥ 0x20 && character.toNat ≠ 0x7f)

/-- The character that a letter after a backslash stands for. -/
def escape? : Char → Option Char
  | 'b' => some '\x08'
  | 't' => some '\t'
  | 'n' => some '\n'
  | 'f' => some '\x0c'
  | 'r' => some '\r'
  | '"' => some '"'
  | '\\' => some '\\'
  | _ => none

/-- The character of a code point written in digits of base sixteen. -/
def scalar? (digits : List Char) : Option Char :=
  let code := digitsValue 16 digits
  if digits.all (isDigitOf 16) && code.isValidChar then some (Char.ofNat code) else none

/-- Put a character in front of what was read. -/
def prepend (character : Char) :
    Option (Reading (List Char)) → Option (Reading (List Char))
  | some (text, rest) => some (character :: text, rest)
  | none => none

/-- Put a character in front of what was read, if there is one. -/
def prependIf (character : Option Char) (reading : Option (Reading (List Char))) :
    Option (Reading (List Char)) :=
  character.bind fun character => prepend character reading

/-- Read up to the closing double mark. -/
def readBasic : List Char → Option (Reading (List Char))
  | [] => none
  | '"' :: rest => some ([], rest)
  | '\\' :: 'u' :: a :: b :: c :: d :: rest => prependIf (scalar? [a, b, c, d]) (readBasic rest)
  | '\\' :: 'U' :: a :: b :: c :: d :: e :: f :: g :: h :: rest =>
      prependIf (scalar? [a, b, c, d, e, f, g, h]) (readBasic rest)
  | '\\' :: letter :: rest => prependIf (escape? letter) (readBasic rest)
  | character :: rest =>
      if isPrintable character && character ≠ '\\' then prepend character (readBasic rest)
      else none

/-- Read up to the closing single mark. -/
def readLiteral : List Char → Option (Reading (List Char))
  | [] => none
  | '\'' :: rest => some ([], rest)
  | character :: rest =>
      if isPrintable character then prepend character (readLiteral rest) else none

/-- Whether a backslash at the end of a line is swallowing white space. -/
inductive Fold where
  | no
  /-- Up to the line break. -/
  | toBreak
  /-- Up to the next character that is not white space. -/
  | toText
  deriving Repr, DecidableEq

/-- Read up to the three closing double marks. -/
def readLongBasic : Fold → List Char → Option (Reading (List Char))
  | _, [] => none
  | .no, '\r' :: '\n' :: rest => prepend '\n' (readLongBasic .no rest)
  | .no, '\n' :: rest => prepend '\n' (readLongBasic .no rest)
  | _, '\r' :: '\n' :: rest => readLongBasic .toText rest
  | _, '\n' :: rest => readLongBasic .toText rest
  | .toBreak, character :: rest =>
      if character = ' ' || character = '\t' then readLongBasic .toBreak rest else none
  | .toText, ' ' :: rest => readLongBasic .toText rest
  | .toText, '\t' :: rest => readLongBasic .toText rest
  | _, '"' :: '"' :: '"' :: '"' :: '"' :: rest => some (['"', '"'], rest)
  | _, '"' :: '"' :: '"' :: '"' :: rest => some (['"'], rest)
  | _, '"' :: '"' :: '"' :: rest => some ([], rest)
  | _, '\\' :: 'u' :: a :: b :: c :: d :: rest =>
      prependIf (scalar? [a, b, c, d]) (readLongBasic .no rest)
  | _, '\\' :: 'U' :: a :: b :: c :: d :: e :: f :: g :: h :: rest =>
      prependIf (scalar? [a, b, c, d, e, f, g, h]) (readLongBasic .no rest)
  | _, '\\' :: letter :: rest =>
      if letter = '\n' then readLongBasic .toText rest
      else if letter = ' ' || letter = '\t' || letter = '\r' && rest.head? = some '\n' then
        readLongBasic .toBreak rest
      else prependIf (escape? letter) (readLongBasic .no rest)
  | _, character :: rest =>
      if isPrintable character && character ≠ '\\' then
        prepend character (readLongBasic .no rest)
      else none

/-- Read up to the three closing single marks. -/
def readLongLiteral : List Char → Option (Reading (List Char))
  | [] => none
  | '\'' :: '\'' :: '\'' :: '\'' :: '\'' :: rest => some (['\'', '\''], rest)
  | '\'' :: '\'' :: '\'' :: '\'' :: rest => some (['\''], rest)
  | '\'' :: '\'' :: '\'' :: rest => some ([], rest)
  | '\r' :: '\n' :: rest => prepend '\n' (readLongLiteral rest)
  | character :: rest =>
      if isPrintable character || character = '\n' then prepend character (readLongLiteral rest)
      else none

/-- The text without a line break at its front. -/
def afterBreak : List Char → List Char
  | '\n' :: rest => rest
  | '\r' :: '\n' :: rest => rest
  | text => text

/-- Read quoted text of any kind. -/
def readQuotation : List Char → Option (Reading String)
  | '"' :: '"' :: '"' :: rest =>
      (readLongBasic .no (afterBreak rest)).map fun (text, rest) => (String.ofList text, rest)
  | '\'' :: '\'' :: '\'' :: rest =>
      (readLongLiteral (afterBreak rest)).map fun (text, rest) => (String.ofList text, rest)
  | '"' :: rest => (readBasic rest).map fun (text, rest) => (String.ofList text, rest)
  | '\'' :: rest => (readLiteral rest).map fun (text, rest) => (String.ofList text, rest)
  | _ => none

end PluggableHost.Toml
