import PluggableHost.Toml.Number
import PluggableHost.Toml.Tree

namespace PluggableHost.Toml

open PluggableHost.Text

/-!
# Reading documents

A document is read line by line: a key and a value, the header of a table, or
nothing but a comment. Brackets and braces nest to a fixed depth only. A text
that does not follow the grammar, or enters something twice, is no document.
-/

/-- How deep arrays and inline tables may nest, and how many parts a key may have. -/
def deepest : Nat := 79

/-- The text after the blanks and tabs at its front. -/
def skipBlanks (text : List Char) : List Char :=
  text.dropWhile fun character => character = ' ' || character = '\t'

/-- The text after a comment, if one stands at its front. -/
def skipComment : List Char → List Char
  | '#' :: rest => rest.dropWhile isPrintable
  | text => text

/-- The text after a line break. -/
def skipBreak? : List Char → Option (List Char)
  | '\n' :: rest => some rest
  | '\r' :: '\n' :: rest => some rest
  | _ => none

/-- The rest of a line without more content: the text of the next lines. -/
def skipLineEnd? (text : List Char) : Option (List Char) :=
  match skipComment (skipBlanks text) with
  | [] => some []
  | rest => skipBreak? rest

/-- The text after blanks, comments and line breaks, as many as the fuel allows. -/
def skipSpace : Nat → List Char → List Char
  | 0, text => text
  | fuel + 1, text =>
      let rest := skipBlanks text
      match skipBreak? (skipComment rest) with
      | some next => skipSpace fuel next
      | none => rest

/-- The stretch between two texts of which the second ends the first. -/
def spanOf (text rest : List Char) : Span := ⟨text.length, rest.length⟩

/-- The characters of a key without quotation marks. -/
def isBareKey (character : Char) : Bool :=
  character.isAlphanum || character = '-' || character = '_'

/-- One part of a key. -/
def readKeyPart (text : List Char) : Option (Reading Key) :=
  match text with
  | '"' :: rest => do
      let (name, rest) ← readBasic rest
      some (⟨String.ofList name, spanOf text rest⟩, rest)
  | '\'' :: rest => do
      let (name, rest) ← readLiteral rest
      some (⟨String.ofList name, spanOf text rest⟩, rest)
  | _ =>
      let name := text.takeWhile isBareKey
      let rest := text.dropWhile isBareKey
      if name.isEmpty then none else some (⟨String.ofList name, spanOf text rest⟩, rest)

/-- The parts of a key, with points between them. -/
def readKey (text : List Char) : Nat → Option (Reading (List Key))
  | 0 => none
  | parts + 1 => do
      let (key, rest) ← readKeyPart (skipBlanks text)
      match skipBlanks rest with
      | '.' :: rest =>
          let (keys, rest) ← readKey rest parts
          some (key :: keys, rest)
      | rest => some ([key], rest)

/-- The items of an array up to its bracket. -/
def readItems (readItem : List Char → Option (Reading Item)) (text : List Char) :
    Nat → Option (Reading (List Item))
  | 0 => none
  | fuel + 1 =>
      match skipSpace text.length text with
      | ']' :: rest => some ([], rest)
      | text => do
          let (item, rest) ← readItem text
          match skipSpace rest.length rest with
          | ',' :: rest =>
              let (items, rest) ← readItems readItem rest fuel
              some (item :: items, rest)
          | ']' :: rest => some ([item], rest)
          | _ => none

/-- A key, an equals sign and a value. -/
def readPair (readItem : List Char → Option (Reading Item)) (text : List Char) :
    Option (Reading (List Key × Item)) := do
  let (keys, text) ← readKey text deepest
  let text ← readMark '=' (skipBlanks text)
  let (item, text) ← readItem (skipBlanks text)
  some ((keys, item), skipBlanks text)

/-- The pairs of an inline table up to its brace; at least one. -/
def readPairs (readItem : List Char → Option (Reading Item)) (fields : Fields) (text : List Char) :
    Nat → Option (Reading Fields)
  | 0 => none
  | fuel + 1 => do
      let ((keys, item), rest) ← readPair readItem text
      let key ← keys.getLast?
      let fields ← enter keys.dropLast key item .inline fields
      match rest with
      | ',' :: rest => readPairs readItem fields rest fuel
      | '\x7d' :: rest => some (fields, rest)
      | _ => none

/-- A number, a date or a time. -/
def readNumber (text : List Char) : Option (Reading Item) :=
  match skipMoment text with
  | some rest => some (.moment (spanOf text rest), rest)
  | none =>
      match readFloat text with
      | some (value, rest) => some (.float (spanOf text rest) value, rest)
      | none => (readInteger text).map fun (value, rest) =>
          (.integer (spanOf text rest) value, rest)

/-- A value, with so many levels of brackets and braces in it at most. -/
def readItem : Nat → List Char → Option (Reading Item)
  | depth, text =>
      match text, depth with
      | '[' :: rest, depth + 1 => do
          let (items, rest) ← readItems (readItem depth) rest text.length
          some (.array (spanOf text rest) items, rest)
      | '\x7b' :: rest, depth + 1 =>
          match skipBlanks rest with
          | '\x7d' :: rest => some (.table .inline (some (spanOf text rest)) [], rest)
          | rest => do
              let (fields, rest) ← readPairs (readItem depth) [] rest text.length
              some (.table .inline (some (spanOf text rest)) fields, rest)
      | '"' :: _, _ => (readQuotation text).map fun (value, rest) =>
          (.text (spanOf text rest) value, rest)
      | '\'' :: _, _ => (readQuotation text).map fun (value, rest) =>
          (.text (spanOf text rest) value, rest)
      | 't' :: 'r' :: 'u' :: 'e' :: rest, _ => some (.boolean (spanOf text rest) true, rest)
      | 'f' :: 'a' :: 'l' :: 's' :: 'e' :: rest, _ =>
          some (.boolean (spanOf text rest) false, rest)
      | _, _ => readNumber text

/-- The path of a header up to its closing bracket. -/
def readHeader (text : List Char) : Option (Reading (List Key)) := do
  let (keys, rest) ← readKey text deepest
  let rest ← readMark ']' rest
  some (keys, rest)

/-- Read one line or one value of several lines. -/
def readLine (builder : Builder) (text : List Char) : Option (Reading Builder) :=
  match skipBlanks text with
  | '[' :: '[' :: rest => do
      let (keys, rest) ← readHeader rest
      let rest ← readMark ']' rest
      let builder ← builder.openRepeated? keys (spanOf (skipBlanks text) rest)
      some (builder, rest)
  | '[' :: rest => do
      let (keys, rest) ← readHeader rest
      let builder ← builder.openTable? keys (spanOf (skipBlanks text) rest)
      some (builder, rest)
  | [] => some (builder, [])
  | first :: rest =>
      if first = '#' || first = '\n' || first = '\r' then some (builder, first :: rest)
      else do
        let ((keys, item), rest) ← readPair (readItem deepest) (first :: rest)
        let key ← keys.getLast?
        let builder ← builder.enter? keys.dropLast key item
        some (builder, rest)

/-- Read lines to the end of the text. -/
def readLines (builder : Builder) (text : List Char) : Nat → Option Builder
  | 0 => none
  | fuel + 1 => do
      let (builder, rest) ← readLine builder text
      match ← skipLineEnd? rest with
      | [] => some builder
      | next => readLines builder next fuel

/-- The text without the mark of the byte order at its front. -/
def skipByteOrderMark : List Char → List Char
  | '\ufeff' :: rest => rest
  | text => text

/-- The fields of a document, if the text is one. -/
def readDocument (text : String) : Option Fields := do
  let builder ← readLines {} (skipByteOrderMark text.toList) (text.length + 1)
  builder.close?

end PluggableHost.Toml
