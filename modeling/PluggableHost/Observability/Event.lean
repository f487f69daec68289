namespace PluggableHost.Observability

/-!
# Log events

An event has a level, an origin, a message and named fields. Filters select by
level and by the name of the origin, so the names are fixed.
-/

/-- How grave an event is, the gravest last. -/
inductive Level where
  | trace
  | debug
  | info
  | warn
  | error
  deriving Repr, DecidableEq

namespace Level

/-- The level's name as log lines show it. -/
def name : Level → String
  | trace => "TRACE"
  | debug => "DEBUG"
  | info => "INFO"
  | warn => "WARN"
  | error => "ERROR"

/-- How grave the level is. -/
def rank : Level → Nat
  | trace => 1
  | debug => 2
  | info => 3
  | warn => 4
  | error => 5

end Level

/-- The part of the host that emits an event. -/
inductive Origin where
  | program
  | startup
  | shutdown
  | signals
  | transitions
  | listeners
  | material
  | tls
  | registration
  | chain
  | hooks
  | posture
  | metrics
  deriving Repr, DecidableEq

/-- The origin's name, by which filters select. -/
def Origin.name : Origin → String
  | program => "service_host"
  | startup => "service_host::lifecycle::startup"
  | shutdown => "service_host::lifecycle::shutdown"
  | signals => "service_host::lifecycle::signals"
  | transitions => "service_host::lifecycle::server"
  | listeners => "service_host::net::listener"
  | material => "service_host::net::material"
  | tls => "service_host::net::tls"
  | registration => "service_host::registry::manager"
  | chain => "service_host::plugin::chain"
  | hooks => "service_host::plugin::hooks"
  | posture => "service_host::http::server"
  | metrics => "service_host::observability::metrics"

/-- The value of a field of an event. -/
inductive FieldValue where
  | text (value : String)
  | number (value : Int)
  | flag (value : Bool)
  deriving Repr, DecidableEq

/-- Something that is told in words, with fields. -/
structure Event where
  level : Level
  origin : Origin
  message : String
  fields : List (String × FieldValue)
  deriving Repr, DecidableEq

end PluggableHost.Observability
