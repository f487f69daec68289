import PluggableHost.Error
import PluggableHost.Observability.Journal

namespace PluggableHost.Plugin

open PluggableHost.Observability

/-!
# Hooks

Hooks run in the order in which they were found. A hook that fails or breaks
down is reported and the others still run; only a fatal failure at startup ends
the run, and it is the result of the run.
-/

/-- What a hook may do with the host that it belongs to. -/
inductive HookAction where
  /-- Ask for a shutdown, without waiting for it. -/
  | shutdown
  | state
  | endpoints
  | listeners
  | heartbeat
  deriving Repr, DecidableEq

/-- The action's name as its note shows it. -/
def HookAction.name : HookAction → String
  | shutdown => "shutdown"
  | state => "state"
  | endpoints => "endpoints"
  | listeners => "listeners"
  | heartbeat => "heartbeat"

/-- How a hook comes to its end. -/
inductive HookOutcome where
  | succeeds
  | fails (failure : HookFailure)
  /-- The hook breaks down instead of reporting a failure. -/
  | breaksDown
  deriving Repr, DecidableEq

/-- The failure that an outcome counts as. -/
def HookOutcome.failure? : HookOutcome → Option HookFailure
  | succeeds => none
  | fails failure => some failure
  | breaksDown => some (.recoverable "hook panicked")

/-- A hook: what it does and how it ends. -/
structure Hook where
  name : String
  actions : List HookAction := []
  outcome : HookOutcome := .succeeds
  deriving Repr, DecidableEq

namespace Hook

/-- The call by which a hook is run. -/
def began (hook : Hook) : Entry := .call (.runHook hook.name)

/-- An event about a hook. -/
def event (hook : Hook) (level : Level) (message : String)
    (fields : List (String × FieldValue) := []) : Entry :=
  .log level .hooks message (("hook", .text hook.name) :: fields)

/-- The journal of a startup hook's end. -/
def startupReport (hook : Hook) : List Entry :=
  match hook.outcome.failure? with
  | none => [hook.event .debug "Startup hook completed"]
  | some (.fatal reason) =>
      [hook.event .error "Startup hook aborted startup" [("reason", .text reason)],
        .metric (.hookFailure .startup)]
  | some failure =>
      [hook.event .warn "Startup hook failed, continuing" [("error", .text failure.message)],
        .metric (.hookFailure .startup)]

/-- The failure with which a startup hook ends the run. -/
def abortsWith? (hook : Hook) : Option HookFailure :=
  match hook.outcome.failure? with
  | some (.fatal reason) => some (.fatal reason)
  | _ => none

/-- The journal of a shutdown hook's end. -/
def shutdownReport (hook : Hook) : List Entry :=
  match hook.outcome.failure? with
  | none => [hook.event .debug "Shutdown hook completed"]
  | some failure =>
      [hook.event .warn "Shutdown hook failed, continuing" [("error", .text failure.message)],
        .metric (.hookFailure .shutdown)]

/-- The hook comes to an end that counts as a failure. -/
def hasFailed (hook : Hook) : Bool := hook.outcome.failure?.isSome

end Hook

/-- Run startup hooks up to the first fatal one. -/
def runStartupHooks : List Hook → Recorded HookFailure Unit
  | [] => pure ()
  | hook :: rest => do
      .notes (hook.began :: hook.startupReport)
      match hook.abortsWith? with
      | some failure => .fail failure
      | none => runStartupHooks rest

/-- Run every shutdown hook and count those that failed. -/
def runShutdownHooks : List Hook → Nat × List Entry
  | [] => (0, [])
  | hook :: rest =>
      let (failures, journal) := runShutdownHooks rest
      ((if hook.hasFailed then 1 else 0) + failures,
        hook.began :: hook.shutdownReport ++ journal)

end PluggableHost.Plugin
