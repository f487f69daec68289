import PluggableHost.Observability.Event

namespace PluggableHost.Observability

/-!
# Log lines

Events as text, in one of three formats: an object on one line for machines,
one terse line, or one line with the origin and a blank line after it.
-/

/-- How log lines look. -/
inductive LogFormat where
  | json
  | pretty
  | compact
  deriving Repr, DecidableEq

/-- The format with a name; there is one for every other name too. -/
def LogFormat.ofName (name : String) : LogFormat :=
  if name = "json" then json else if name = "pretty" then pretty else compact

/-- A character inside a JSON string. -/
def jsonChar (character : Char) : List Char :=
  match character with
  | '"' => ['\\', '"']
  | '\\' => ['\\', '\\']
  | '\n' => ['\\', 'n']
  | '\r' => ['\\', 'r']
  | '\t' => ['\\', 't']
  | '\x08' => ['\\', 'b']
  | '\x0c' => ['\\', 'f']
  | other =>
      if other.toNat < 32 then
        ['\\', 'u', '0', '0', Nat.digitChar (other.toNat / 16), Nat.digitChar (other.toNat % 16)]
      else [other]

/-- A text as a JSON string. -/
def jsonText (text : String) : String :=
  String.ofList ('"' :: text.toList.flatMap jsonChar ++ ['"'])

/-- Members as a JSON object. -/
def jsonObject (members : List (String × String)) : String :=
  let texts := members.map fun (name, value) => jsonText name ++ ":" ++ value
  "\x7b" ++ String.intercalate "," texts ++ "\x7d"

/-- The value of a field as it is read by people. -/
def FieldValue.plain : FieldValue → String
  | text value => value
  | number value => toString value
  | flag value => if value then "true" else "false"

/-- A value as JSON. -/
def FieldValue.json : FieldValue → String
  | text value => jsonText value
  | other => other.plain

namespace Event

/-- The event as a JSON object. -/
def jsonLine (event : Event) (time : String) : String :=
  let fields := event.fields.map fun (name, value) => (name, value.json)
  jsonObject
    [("timestamp", jsonText time), ("level", jsonText event.level.name),
      ("fields", jsonObject (("message", jsonText event.message) :: fields)),
      ("target", jsonText event.origin.name)]

/-- The time and the level, which is as wide as the widest. -/
def opening (event : Event) (time : String) : String :=
  let name := event.level.name
  time ++ " " ++ (if name.length < 5 then " " ++ name else name) ++ " "

/-- The event on one line without its origin. -/
def compactLine (event : Event) (time : String) : String :=
  let fields := event.fields.map fun (name, value) => " " ++ name ++ "=" ++ value.plain
  event.opening time ++ event.message ++ String.join fields

/-- The event with its origin, and a blank line. -/
def prettyLine (event : Event) (time : String) : String :=
  let fields := event.fields.map fun (name, value) => ", " ++ name ++ ": " ++ value.plain
  "  " ++ event.opening time ++ event.origin.name ++ ": " ++ event.message ++
    String.join fields ++ "\n"

/-- The log line of an event. -/
def line (event : Event) (time : String) : LogFormat → String
  | .json => event.jsonLine time
  | .pretty => event.prettyLine time
  | .compact => event.compactLine time

end Event

end PluggableHost.Observability
