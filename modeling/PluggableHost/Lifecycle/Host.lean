import PluggableHost.Http.Posture
import PluggableHost.Net.Listener
import PluggableHost.Plugin.Capability
import PluggableHost.Registry.Registration
import PluggableHost.Tls.Context

namespace PluggableHost.Lifecycle

open PluggableHost.Config PluggableHost.Net PluggableHost.Observability PluggableHost.Os
open PluggableHost.Plugin PluggableHost.Registry

/-!
# Hosts

What a host is built from, which never changes, and what it is at some moment,
which every job of the host may change. The changes of the state are here;
each of them is one atomic step that looks at the state and moves at once, so
that no two jobs can both make the same move.
-/

/-- What a host is built from. -/
structure Blueprint (σ ρ : Type) where
  settings : Settings := {}
  plugins : Plugins σ ρ := {}
  material : MaterialSource
  /-- How key material is read, decrypted and accepted. -/
  acceptance : Tls.Acceptance := .standard
  /-- Finds an address under which a wildcard address can be reached. -/
  probe : IpAddress → Option IpAddress := fun _ => none
  /-- Shut down when the process is told to end. -/
  handlesSignals : Bool := true

namespace Blueprint

variable {σ ρ : Type}

/-- The providers in the order in which they are asked. -/
def providers (blueprint : Blueprint σ ρ) : List (Provider σ) :=
  blueprint.plugins.all .answer

/-- The middleware, the outermost first. -/
def middleware (blueprint : Blueprint σ ρ) : List (Middleware σ) :=
  blueprint.plugins.all .wrap

/-- The hooks that run before anything is published or opened. -/
def startupHooks (blueprint : Blueprint σ ρ) : List Hook :=
  blueprint.plugins.all .runAtStartup

/-- The hooks that run before the listeners are stopped. -/
def shutdownHooks (blueprint : Blueprint σ ρ) : List Hook :=
  blueprint.plugins.all .runAtShutdown

/-- The registry; of several the first counts. -/
def client (blueprint : Blueprint σ ρ) : Option (RegistryClient ρ) :=
  blueprint.plugins.first? .keepEndpoints

end Blueprint

/-- A host at some moment. -/
structure Host (σ ρ : Type) where
  state : State := .notStarted
  /-- A shutdown was asked for while the host was starting. -/
  shutdownPending : Bool := false
  /-- Some job waits for the signal that ends the process. -/
  signalsArmed : Bool := false
  signalled : Bool := false
  registrar : Registrar ρ
  /-- The listeners, as long as nobody has taken them to stop them. -/
  listening : Option Listening := none
  /-- What every listener serves. -/
  service : Option (Handler σ) := none
  network : Network

/-- How a request for a shutdown was met. -/
inductive Claim where
  /-- The host was running, and it is up to this request to shut it down. -/
  | won
  /-- The host was never started, and never will be. -/
  | neverStarted
  /-- The host is starting; the start shuts it down as soon as it is running. -/
  | deferred
  /-- The host is shutting down, or has. -/
  | late (state : State)
  deriving Repr, DecidableEq

namespace Host

variable {σ ρ : Type}

/-- The open listeners that nobody has taken yet. -/
def listeners (host : Host σ ρ) : List Listener :=
  (host.listening.map Listening.listeners).getD []

/-- Move from one state to another, or tell the state that is in the way. -/
def advance (host : Host σ ρ) (source target : State) : Except State Unit × Host σ ρ :=
  if host.state = source then (.ok (), { host with state := target })
  else (.error host.state, host)

/-- Ask for a shutdown. A host that is starting is told to shut down later. -/
def claimShutdown (host : Host σ ρ) : Claim × Host σ ρ :=
  match host.state with
  | .running => (.won, { host with state := .shuttingDown })
  | .notStarted => (.neverStarted, { host with state := .stopped })
  | .starting => (.deferred, { host with shutdownPending := true })
  | .shuttingDown => (.late .shuttingDown, host)
  | .stopped => (.late .stopped, host)

/-- The host as a description shows it. -/
def text (host : Host σ ρ) (plugins : Plugins σ ρ) : String :=
  "Server \x7b state: " ++ host.state.label ++ ", listeners: " ++
    listenersText host.listeners ++ ", plugins: " ++ plugins.text ++ " \x7d"

/-- A host that is not where the move starts stays where it is. -/
theorem advance_of_ne (host : Host σ ρ) {source : State} (target : State)
    (different : host.state ≠ source) :
    host.advance source target = (.error host.state, host) := by
  simp [advance, different]

/-- A host that is where the move starts makes it. -/
theorem advance_of_eq (host : Host σ ρ) {source : State} (target : State)
    (same : host.state = source) :
    host.advance source target = (.ok (), { host with state := target }) := by
  simp [advance, same]

end Host

/-- The metric and the event of a move of the state. -/
def moved (source target : State) : List Entry :=
  [.metric (.transition target),
    .log .debug .transitions "Lifecycle transition"
      [("from", .text source.name), ("to", .text target.name)]]

/-- An event of a shutdown. -/
def shutdownEvent (level : Level) (message : String)
    (fields : List (String × FieldValue) := []) : Entry :=
  .log level .shutdown message fields

/-- What is told of the way in which a request for a shutdown was met. -/
def Claim.report : Claim → List Entry
  | won => moved .running .shuttingDown
  | neverStarted =>
      moved .notStarted .stopped ++
        [shutdownEvent .info "Shutdown before start, server stopped"]
  | deferred => [shutdownEvent .info "Shutdown requested while starting, deferred"]
  | late state =>
      [shutdownEvent .debug "Shutdown already in progress or complete"
        [("state", .text state.name)]]

end PluggableHost.Lifecycle
