import PluggableHost.Observability.Event
import PluggableHost.Text.Blank
import PluggableHost.Text.Digits
import PluggableHost.Text.Letters

namespace PluggableHost.Observability

open PluggableHost.Text

/-!
# Filters of log events

A filter is written as directives with commas between them. A directive names a
level, or an origin by the beginning of its name, or the fields that an event
must have, and the level from which on such events pass. Of the directives that
concern an event, the most specific one decides. A directive for a span of time
concerns no event here, because hosts open no spans.
-/

/-- The least grave level that passes; nothing passes where there is none. -/
abbrev Threshold := Option Level

/-- A field that an event must have, with a value that it must have or without. -/
structure FieldPattern where
  name : String
  value : Option String := none
  deriving Repr, DecidableEq

/-- One directive of a filter. -/
structure Directive where
  threshold : Threshold := some .trace
  /-- The beginning of the names of the origins that are meant. -/
  target : Option String := none
  span : Option String := none
  fields : List FieldPattern := []
  deriving Repr, DecidableEq

/-- A text is no filter. -/
inductive FilterFault where
  | directive
  | level
  deriving Repr, DecidableEq

/-- The fault in words. -/
def FilterFault.message : FilterFault → String
  | directive => "invalid filter directive"
  | level =>
      "error parsing level filter: expected one of \"off\", \"error\", \"warn\", \"info\", " ++
        "\"debug\", \"trace\", or a number 0-5"

/-- The thresholds by number, from letting nothing pass to letting all pass. -/
def Threshold.numbered : List Threshold :=
  [none, some .error, some .warn, some .info, some .debug, some .trace]

/-- The number that decimal digits write, after a sign that may be there. -/
def readDecimal (text : List Char) : Option Nat :=
  let digits := if text.head? = some '+' then text.tail else text
  if digits.isEmpty || !digits.all (isDigitOf 10) then none else some (digitsValue 10 digits)

/-- The thresholds that have names. -/
def Threshold.named : List (String × Threshold) :=
  [("off", none), ("error", some .error), ("warn", some .warn), ("info", some .info),
    ("debug", some .debug), ("trace", some .trace)]

/-- The threshold that a text names, by its number or in letters of any case. -/
def Threshold.parse? (text : List Char) : Option Threshold :=
  match (readDecimal text).bind fun number => Threshold.numbered[number]? with
  | some threshold => some threshold
  | none => Threshold.named.lookup (String.ofList text).toLower

/-- The threshold after an equals sign; all passes where nothing follows it. -/
def readThreshold (text : List Char) : Except FilterFault Threshold :=
  if text.isEmpty then .ok (some .trace)
  else
    match Threshold.parse? text with
    | some threshold => .ok threshold
    | none => .error .level

/-- A text, or nothing where it is empty. -/
def nonEmpty? (text : List Char) : Option String :=
  if text.isEmpty then none else some (String.ofList text)

/-- A field with or without a value. -/
def FieldPattern.parse (text : List Char) : FieldPattern :=
  let name := text.takeWhile (· != '=')
  let value := (text.drop (name.length + 1)).takeWhile (· != '=')
  { name := String.ofList name
    value := if name.length = text.length then none else some (String.ofList value) }

/-- What may follow a span: the end, or an equals sign and a level. -/
def readAfterSpan (directive : Directive) : List Char → Except FilterFault Directive
  | [] => .ok directive
  | '=' :: level => return { directive with threshold := ← readThreshold level }
  | _ => .error .directive

/-- The field between braces, and what follows the closing bracket. -/
def readField (directive : Directive) (text : List Char) : Except FilterFault Directive :=
  let field := text.takeWhile (· != '\x7d')
  match field.isEmpty, text.drop field.length with
  | false, '\x7d' :: ']' :: rest =>
      readAfterSpan { directive with fields := [.parse field] } rest
  | _, _ => .error .directive

/-- A span after its opening bracket: its name, and a field that it must have. -/
def readSpan (directive : Directive) (text : List Char) : Except FilterFault Directive :=
  let name := text.takeWhile fun character => character != ']' && character != '\x7b'
  match text.drop name.length with
  | ']' :: rest => readAfterSpan { directive with span := some (String.ofList name) } rest
  | '\x7b' :: rest => readField { directive with span := nonEmpty? name } rest
  | _ => .error .directive

/-- A name may begin with the character. -/
def startsName (character : Char) : Bool :=
  ['-', ':', '_'].contains character || isLetterOrNumber character

/-- One directive. A name alone is a level if it can be, and else an origin. -/
def Directive.parse (text : List Char) : Except FilterFault Directive :=
  match text with
  | '[' :: rest => readSpan {} rest
  | first :: _ =>
      if !startsName first then .error .directive
      else
        let name := text.takeWhile fun character => character != '=' && character != '['
        let target := some (String.ofList name)
        match text.drop name.length with
        | '=' :: level => return { target, threshold := ← readThreshold level }
        | '[' :: rest => readSpan { target } rest
        | _ =>
            match Threshold.parse? name with
            | some threshold => .ok { threshold }
            | none => .ok { target }
  | [] => .error .directive

/-- What a filter asks of events without looking at spans. -/
structure Rule where
  threshold : Threshold
  target : Option String
  fields : List String
  deriving Repr, DecidableEq

/-- A filter, as the rules that it was written with. -/
structure Filter where
  rules : List Rule
  deriving Repr, DecidableEq

/-- The rule of a directive that needs no span and no value of a field. -/
def Directive.rule? (directive : Directive) : Option Rule :=
  if directive.span.isNone && directive.fields.all fun field => field.value.isNone then
    some
      { threshold := directive.threshold, target := directive.target
        fields := directive.fields.map fun field => field.name }
  else none

namespace Filter

/-- A filter from its directives; without any directive nothing passes. -/
def ofDirectives (directives : List Directive) : Filter :=
  { rules := directives.filterMap Directive.rule? }

/-- The filter that a text writes. Empty parts count for nothing. -/
def parse (text : String) : Except FilterFault Filter := do
  let parts := (text.splitOn ",").filter fun part => !part.isEmpty
  let directives ← parts.mapM fun part => Directive.parse (trimmed part).toList
  return ofDirectives directives

/-- The rule speaks of an event. -/
def concerns (event : Event) (rule : Rule) : Bool :=
  (rule.target.all fun target => event.origin.name.startsWith target) &&
    rule.fields.all fun field => field = "message" || (event.fields.map Prod.fst).contains field

/-- How specific a rule is: by the length of its target, then by its fields. -/
def specificity (rule : Rule) : Nat × Nat :=
  ((rule.target.map fun target => target.length + 1).getD 0, rule.fields.length)

/-- A rule that is at least as specific as another, which it replaces when it comes later. -/
def outranks (later earlier : Rule) : Bool :=
  let (first, second) := (specificity later, specificity earlier)
  first.1 > second.1 ||
    (first.1 = second.1 && (first.2 > second.2 ||
      (first.2 = second.2 && !decide (later.fields < earlier.fields))))

/-- The rule that decides about an event. -/
def deciding? (filter : Filter) (event : Event) : Option Rule :=
  (filter.rules.filter (concerns event)).foldl
    (fun best rule =>
      match best with
      | none => some rule
      | some earlier => if outranks rule earlier then some rule else some earlier)
    none

/-- The filter lets an event through. -/
def passes (filter : Filter) (event : Event) : Bool :=
  ((filter.deciding? event).bind Rule.threshold).any fun level =>
    level.rank ≤ event.level.rank

/-- The filter of an environment, or else of a level that was chosen. -/
def choose (environment : Option String) (level : String) : Except FilterFault Filter :=
  match environment.bind fun text => (parse text).toOption with
  | some filter => .ok filter
  | none => parse level

end Filter

end PluggableHost.Observability
