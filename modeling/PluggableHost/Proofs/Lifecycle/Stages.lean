import PluggableHost.Proofs.Lifecycle.Alone
import PluggableHost.Proofs.Observability.Writing

namespace PluggableHost.Lifecycle

open PluggableHost.Config PluggableHost.Http PluggableHost.Net
open PluggableHost.Observability PluggableHost.Plugin PluggableHost.Registry

/-!
# The stages of a start

A start that nobody interferes with, told as a whole.  It goes through a list of
stages, of which the settings leave some out, up to the first that fails.  Then
it takes back what was done, or concludes.  That the steps of the job come to
exactly this is the main result of the module.
-/

/-- The parts of a start that may fail. -/
inductive Stage where
  | validation
  | hooks
  | registration
  | assembly
  | security
  | opening
  deriving Repr, DecidableEq

/-- Every stage, in the order of a start. -/
def Stage.all : List Stage :=
  [.validation, .hooks, .registration, .assembly, .security, .opening]

/-- What a part of a start comes to. -/
structure Attempt (σ ρ : Type) where
  outcome : Except HostError Unit
  host : Host σ ρ
  journal : List Entry

variable {σ ρ : Type}

namespace Blueprint

variable {blueprint : Blueprint σ ρ} (host : Host σ ρ)

/-- The settings ask for a stage. -/
def includes (blueprint : Blueprint σ ρ) : Stage → Bool
  | .registration => blueprint.settings.enableRegistry
  | .security => blueprint.settings.enableHttps
  | _ => true

/-- The stages of a start, in their order. -/
def stages (blueprint : Blueprint σ ρ) : List Stage :=
  Stage.all.filter blueprint.includes

/-- The endpoints that a start would publish. -/
def endpoints (blueprint : Blueprint σ ρ) : List Endpoint :=
  Registrar.endpointsFor blueprint.settings
    (Registrar.reachableAddress blueprint.probe blueprint.settings.ip).1

/-- The handler that is served once a chain has been assembled. -/
def composed? (blueprint : Blueprint σ ρ) : Option (Handler σ) :=
  match
    (Plugin.assemble blueprint.providers blueprint.middleware).outcome,
    Posture.ofSettings? blueprint.settings with
  | .ok chain, some (posture, _) => some (posture.service chain)
  | _, _ => none

/-- What one stage comes to. -/
def perform
    (blueprint : Blueprint σ ρ)
    (host : Host σ ρ) : Stage → Attempt σ ρ
  | .validation =>
      let problems := blueprint.settings.problems
      if problems.isEmpty then
        ⟨.ok (), host, []⟩
      else
        ⟨.error (.configuration problems), host,
          problems.map fun problem =>
            startupEvent .error problem.message
              [("field", .text problem.field)]⟩
  | .hooks =>
      let run := runStartupHooks blueprint.startupHooks
      ⟨run.outcome.mapError .hook, host, run.journal⟩
  | .registration =>
      let step :=
        host.registrar.register blueprint.client blueprint.probe
          blueprint.settings
      let host := { host with registrar := step.registrar }
      match step.value with
      | .error failure =>
          ⟨.error failure, host, step.journal⟩
      | .ok _ =>
          ⟨.ok (), host,
            step.journal ++
              [startupEvent .debug "Endpoints registered"
                [("endpoints",
                  .number blueprint.settings.enabledProtocols.length)]]⟩
  | .assembly =>
      let part :=
        Plugin.assemble blueprint.providers blueprint.middleware
      ⟨part.outcome.map fun _ => (), host, part.journal⟩
  | .security =>
      let part :=
        Tls.Context.build blueprint.acceptance blueprint.settings
          blueprint.material
      ⟨part.outcome.map fun _ => (), host, part.journal⟩
  | .opening =>
      let settings := blueprint.settings
      let opening :=
        openListeners settings settings.enableHttps host.network
      let journal :=
        (serverHeader settings.serverString).2 ++ opening.journal
      let host := { host with network := opening.network }
      match opening.outcome with
      | .error failure =>
          ⟨.error failure, host, journal⟩
      | .ok listeners =>
          ⟨.ok (),
            { host with
              listening := some { listeners }
              service := blueprint.composed? },
            journal⟩

/-- What stages in order come to, up to the first that fails. -/
def bringUp
    (blueprint : Blueprint σ ρ)
    (host : Host σ ρ) : List Stage → Attempt σ ρ
  | [] => ⟨.ok (), host, []⟩
  | stage :: rest =>
      let first := blueprint.perform host stage
      match first.outcome with
      | .error failure => ⟨.error failure, first.host, first.journal⟩
      | .ok () =>
          let others := blueprint.bringUp first.host rest
          { others with journal := first.journal ++ others.journal }

/-- The start that all of its stages let through. -/
def conclude
    (blueprint : Blueprint σ ρ)
    (host : Host σ ρ) : Turn σ ρ :=
  let step := host.registrar.activateHeartbeat
  let enabled := blueprint.settings.enableRegistry
  { host :=
      { host with
        state := .running
        shutdownPending := false
        registrar := if enabled then step.registrar else host.registrar }
    next := .done (.ok ())
    journal :=
      (if enabled then step.journal else []) ++
        moved .starting .running ++
        [startupEvent .info "Server started"
          [("service_id", .text blueprint.settings.serviceId),
            ("listeners", .text (listenersText host.listeners))]] }

/-- The start that one of its stages ended. -/
def rollBack
    (blueprint : Blueprint σ ρ)
    (host : Host σ ρ)
    (failure : HostError) : Turn σ ρ :=
  let step := host.registrar.unregisterAll blueprint.client
  { host :=
      { host with
        state := .stopped
        shutdownPending := false
        registrar := step.registrar
        listening := none }
    next := .done (.error failure)
    journal :=
      startupEvent .error "Server startup failed"
          [("service_id", .text blueprint.settings.serviceId),
            ("error", .text failure.message)] ::
        (step.journal ++ moved .starting .stopped) }

/-- What the stages came to, and how the start ends after that. -/
def settle
    (blueprint : Blueprint σ ρ)
    (attempt : Attempt σ ρ) : Turn σ ρ :=
  let ending :=
    match attempt.outcome with
    | .error failure => blueprint.rollBack attempt.host failure
    | .ok () => blueprint.conclude attempt.host
  { ending with journal := attempt.journal ++ ending.journal }

/-- What comes before the stages: the host starts, and waits for the signal to end. -/
def setOff
    (blueprint : Blueprint σ ρ)
    (host : Host σ ρ) : Turn σ ρ :=
  let arms := blueprint.handlesSignals && !host.signalsArmed
  { host :=
      { host with
        state := .starting
        signalsArmed := host.signalsArmed || arms }
    next := .validate
    journal :=
      moved .notStarted .starting ++
        (if arms then
          [.log .debug .signals "Termination signal hook installed"]
        else [])
    spawned := if arms then [.awaitSignal] else [] }

end Blueprint

end PluggableHost.Lifecycle
