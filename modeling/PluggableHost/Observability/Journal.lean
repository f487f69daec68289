import PluggableHost.Observability.Event
import PluggableHost.Observability.Metric
import PluggableHost.Registry.Endpoint

namespace PluggableHost.Observability

open PluggableHost.Registry

/-!
# The journal

Everything that a host does for others to see, in order: events, metric
updates, and calls of its plugins. A computation that may fail keeps the
journal it wrote until it failed.
-/

/--
One call of a plugin, or what a plugin found out about its host. A quiet plugin
does nothing of its own when it is asked or joins.
-/
inductive PluginCall where
  | runHook (hook : String)
  | hookNote (hook action result : String)
  | register (endpoint : Endpoint)
  | unregister (endpoint : Endpoint)
  | askProvider (provider : String) (quiet : Bool)
  | askMiddleware (middleware : String)
  | wrap (middleware : String)
  | join (middleware : String) (quiet : Bool)
  deriving Repr, DecidableEq

/-- One entry of the journal. -/
inductive Entry where
  | event (event : Event)
  | metric (metric : Metric)
  | call (call : PluginCall)
  deriving Repr, DecidableEq

namespace Entry

/-- The event that was told, if the entry is one. -/
def event? : Entry → Option Event
  | event value => some value
  | _ => none

/-- The metric that was updated, if the entry is an update. -/
def metric? : Entry → Option Metric
  | metric value => some value
  | _ => none

/-- The call of a plugin, if the entry is one. -/
def call? : Entry → Option PluginCall
  | call value => some value
  | _ => none

/-- An event as an entry. -/
def log (level : Level) (origin : Origin) (message : String)
    (fields : List (String × FieldValue) := []) : Entry :=
  event { level, origin, message, fields }

end Entry

/-- A result together with the journal of the way to it. -/
structure Recorded (ε α : Type) where
  outcome : Except ε α
  journal : List Entry

namespace Recorded

variable {ε α β : Type}

/-- A value, and nothing is written. -/
def pure (value : α) : Recorded ε α := ⟨.ok value, []⟩

/-- Go on with the result; after a failure nothing more happens. -/
def bind (first : Recorded ε α) (next : α → Recorded ε β) : Recorded ε β :=
  match first.outcome with
  | .error failure => ⟨.error failure, first.journal⟩
  | .ok value => ⟨(next value).outcome, first.journal ++ (next value).journal⟩

/-- Recorded computations follow each other, and their journals too. -/
instance : Monad (Recorded ε) where
  pure := pure
  bind := bind

/-- Write one entry. -/
def note (entry : Entry) : Recorded ε Unit := ⟨.ok (), [entry]⟩

/-- Write entries. -/
def notes (entries : List Entry) : Recorded ε Unit := ⟨.ok (), entries⟩

/-- Fail, and nothing is written. -/
def fail (failure : ε) : Recorded ε α := ⟨.error failure, []⟩

/-- A result that failed or not without writing anything. -/
def ofExcept (outcome : Except ε α) : Recorded ε α := ⟨outcome, []⟩

@[simp] theorem outcome_pure (value : α) :
    (Pure.pure value : Recorded ε α).outcome = .ok value := rfl

@[simp] theorem journal_pure (value : α) :
    (Pure.pure value : Recorded ε α).journal = [] := rfl

/-- What follows a failure is left out. -/
theorem bind_of_error {first : Recorded ε α} {failure : ε} (next : α → Recorded ε β)
    (failed : first.outcome = .error failure) :
    first >>= next = ⟨.error failure, first.journal⟩ := by
  show bind first next = _
  simp [bind, failed]

/-- What follows a success has its value, and writes after it. -/
theorem bind_of_ok {first : Recorded ε α} {value : α} (next : α → Recorded ε β)
    (succeeded : first.outcome = .ok value) :
    first >>= next =
      ⟨(next value).outcome, first.journal ++ (next value).journal⟩ := by
  show bind first next = _
  simp [bind, succeeded]

end Recorded

end PluggableHost.Observability
