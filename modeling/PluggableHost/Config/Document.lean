import PluggableHost.Config.Problem
import PluggableHost.Config.Setting
import PluggableHost.Os.FileTree
import PluggableHost.Toml.Reader

namespace PluggableHost.Config

open PluggableHost.Toml PluggableHost.Os

/-!
# Configuration documents

A document is read, its settings are decoded, and the settings are checked.
Where decoding stops, the message shows the line and points at the value.
-/

/-- Why a configuration could not be used. -/
inductive LoadError where
  | unreadable (path : String) (cause : Failure)
  /-- The text is no document. -/
  | malformed
  /-- A value is not what its key asks for; the words show where. -/
  | mistyped (words : String)
  /-- The settings contradict each other. -/
  | invalid (problems : List Problem)
  deriving Repr, DecidableEq

/-- The error in words. The grammar's own words for malformed text are left open. -/
def LoadError.message : LoadError → String
  | unreadable path cause => "IO error reading " ++ path ++ ": " ++ cause.message
  | malformed => "Parse error"
  | mistyped words => "Parse error: " ++ words
  | invalid problems => "Validation failed: " ++ Problem.describe problems

/-- The words of the error behind this one, when there is one. -/
def LoadError.source? : LoadError → Option String
  | unreadable _ cause => some cause.message
  | _ => none

/-- The line of a text around a position, and the column there. -/
structure Spot where
  /-- Lines are counted from zero. -/
  line : Nat
  column : Nat
  content : String

/-- The spot of the character at a position. -/
def spotAt (text : List Char) (position : Nat) : Spot :=
  let before := text.take position
  let start := (before.reverse.takeWhile fun character => character ≠ '\n').reverse
  let rest := (text.drop position).takeWhile fun character => character ≠ '\n'
  { line := before.count '\n', column := start.length, content := String.ofList (start ++ rest) }

/-- The number of bytes between two positions, as far as they are on one line. -/
def bytesBetween (text : List Char) (start stop : Nat) : Nat :=
  let between := (text.drop start).take (stop - start)
  (String.ofList (between.takeWhile fun character => character ≠ '\n')).utf8ByteSize

/-- A text of so many blanks. -/
def blanks (count : Nat) : String := String.ofList (List.replicate count ' ')

/-- A message under the line that it is about, which is marked as far as it is meant. -/
def pointAt (text : String) (span : Span) (message : String) : String :=
  let characters := text.toList
  let start := characters.length - span.fromStart
  let stop := characters.length - span.afterEnd
  let spot := spotAt characters start
  let number := toString (spot.line + 1)
  let gutter := blanks (number.length + 1) ++ "|"
  let width := bytesBetween characters start stop
  let marks := String.ofList (List.replicate (max width 1) '^')
  "TOML parse error at line " ++ number ++ ", column " ++ toString (spot.column + 1) ++ "\n" ++
    gutter ++ "\n" ++
    number ++ " | " ++ spot.content ++ "\n" ++
    gutter ++ blanks (spot.column + 1) ++ marks ++ "\n" ++
    message ++ "\n"

/-- A fault in words, with the line that it is in. -/
def Fault.describe (text : String) (fault : Fault) : String :=
  match fault.span with
  | some span => pointAt text span fault.mismatch.message
  | none => fault.mismatch.message ++ "\n"

/-- Settings that are free of problems. -/
def Settings.checked (settings : Settings) : Except LoadError Settings :=
  if settings.problems.isEmpty then .ok settings else .error (.invalid settings.problems)

/-- Settings from the text of a document. -/
def Settings.parse (text : String) : Except LoadError Settings := do
  match readDocument text with
  | none => .error .malformed
  | some fields =>
      match Settings.ofFields fields with
      | .error fault => .error (.mistyped (fault.describe text))
      | .ok settings => settings.checked

/-- Settings from the file at a path. -/
def Settings.load (tree : FileTree) (path : String) : Except LoadError Settings :=
  match tree.readText path with
  | .error cause => .error (.unreadable path cause)
  | .ok text => Settings.parse text

end PluggableHost.Config
