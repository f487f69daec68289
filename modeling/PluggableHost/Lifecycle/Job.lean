import PluggableHost.Lifecycle.Host

namespace PluggableHost.Lifecycle

open PluggableHost.Net PluggableHost.Observability PluggableHost.Plugin PluggableHost.Registry

/-!
# Jobs

Whoever asks something of a host has a job: a start, a shutdown, a stop of the
listeners, or the wait for the signal that ends the process. A job is known by
the step that it takes next. Steps are as fine as the interference of jobs
demands: looking at the state and moving is one step, and so is every single
change of something that jobs share, and every call of a plugin.

A start that failed and a shutdown both withdraw endpoints and stop listeners.
Those parts are written once and know where they lead.
-/

/-- What endpoints are withdrawn and listeners stopped for. -/
inductive Purpose where
  | rollback (failure : HostError)
  | shutdown
  deriving Repr, DecidableEq

/-- A part of the withdrawal of endpoints. -/
inductive Withdrawal where
  /-- Take the first endpoint off the list of what is published. -/
  | untrack (endpoints : List Endpoint)
  /-- Tell the registry about an endpoint that was taken off the list. -/
  | tell (endpoint : Endpoint) (rest : List Endpoint)
  deriving Repr, DecidableEq

/-- A part of the stopping of listeners. -/
inductive Stopping where
  /-- Take the listeners out of the host. -/
  | take
  /-- Let all of them stop taking connections. -/
  | dismiss (listeners : List Listener)
  /-- Wait for the first one to come to its end. -/
  | await (listeners : List Listener)
  deriving Repr, DecidableEq

/--
The next step of a job.

The steps of a start come first, from `begin` on, then those of a start that failed,
from `reportFailure` on, those of a shutdown, from `awaitSignal` on, the parts of both,
from `runHooks` on, and the ends of a job.
-/
inductive Job (σ : Type) where
  | begin
  | refuseToBegin (found : State)
  | reportBegun
  | armSignals
  | validate
  | publish
  | offer (endpoints : List Endpoint)
  | track (endpoint : Endpoint) (rest : List Endpoint)
  | finishPublishing
  | assemble
  | secure (chain : Chain σ)
  | compose (chain : Chain σ) (hasContext : Bool)
  | listen (service : Handler σ) (hasContext : Bool)
  | keep (service : Handler σ) (listeners : List Listener)
  | turnHeartbeatOn
  | enterRunning
  | reportRunning
  | announceStart
  | lookForPending
  | resumeShutdown
  | reportFailure (failure : HostError)
  | forgetPending (failure : HostError)
  | giveUp (failure : HostError)
  | reportGivenUp (failure : HostError)
  | awaitSignal
  | claim
  | reportClaim (claim : Claim)
  | announceShutdown
  | turnHeartbeatOff
  | announceCleanUp
  | reportHooks (failures : Nat)
  | enterStopped
  | reportStopped
  | announceEnd
  | runHooks (phase : Phase) (failures : Nat) (hooks : List Hook)
  | runHook (phase : Phase) (failures : Nat) (hook : Hook) (actions : List HookAction)
      (rest : List Hook)
  | withdrawAll (purpose : Purpose)
  | withdraw (purpose : Purpose) (withdrawal : Withdrawal)
  | stop (purpose : Option Purpose) (stopping : Stopping)
  | done (outcome : Except HostError Unit)
  /-- The service could not be composed, and nobody was told. -/
  | brokenDown

namespace Job

variable {σ : Type}

/-- The job takes no more steps. -/
def isOver : Job σ → Bool
  | done _ => true
  | brokenDown => true
  | _ => false

/-- The job of a stop that nobody else asked for. -/
def stopListeners : Job σ := .stop none .take

/-- What follows when the listeners have been stopped. -/
def afterStop : Option Purpose → Job σ
  | none => .done (.ok ())
  | some (.rollback failure) => .forgetPending failure
  | some .shutdown => .enterStopped

/-- What follows when the endpoints have been withdrawn. -/
def afterWithdrawal : Purpose → Job σ
  | .rollback failure => .stop (some (.rollback failure)) .take
  | .shutdown => .announceCleanUp

/-- What follows when a request for a shutdown has been met. -/
def afterClaim : Claim → Job σ
  | .won => .announceShutdown
  | _ => .done (.ok ())

end Job

/-- What one step of a job leads to. -/
structure Turn (σ ρ : Type) where
  host : Host σ ρ
  next : Job σ
  journal : List Entry := []
  spawned : List (Job σ) := []

end PluggableHost.Lifecycle
