import PluggableHost.Lifecycle.Job

namespace PluggableHost.Lifecycle

open PluggableHost.Net PluggableHost.Observability PluggableHost.Plugin PluggableHost.Registry

/-!
# Steps

What each step of a job does to the host, what it leaves in the journal, and
which step follows. A step is taken as a whole; between two steps of one job
other jobs may take any number of theirs.
-/

/-- An event of a start. -/
def startupEvent (level : Level) (message : String)
    (fields : List (String × FieldValue) := []) : Entry :=
  .log level .startup message fields

/-- What a hook sees of its host. -/
def Host.sighting {σ ρ : Type} (host : Host σ ρ) : HookAction → String
  | .shutdown => "true"
  | .state => host.state.name
  | .endpoints => toString host.registrar.tracked.length
  | .listeners => toString host.listeners.length
  | .heartbeat => toString (host.registrar.switches.isOn heartbeat)

namespace Blueprint

variable {σ ρ : Type}

/--
A hook does something with its host. A hook that asks for a shutdown goes on
without waiting for it, so a shutdown that it has to carry out is a job of its
own.
-/
def act (host : Host σ ρ) (hook : Hook) (action : HookAction) (next : Job σ) : Turn σ ρ :=
  match action with
  | .shutdown =>
      let (claim, host) := host.claimShutdown
      let note := fun atOnce : Bool =>
        [Entry.call (.hookNote hook.name action.name (toString atOnce))]
      match claim with
      | .won => { host, next, journal := note false, spawned := [.reportClaim .won] }
      | other => { host, next, journal := other.report ++ note true }
  | other =>
      { host, next
        journal := [.call (.hookNote hook.name other.name (host.sighting other))] }

/-- What follows when all hooks have run. -/
def afterHooks (blueprint : Blueprint σ ρ) (failures : Nat) : Phase → Job σ
  | .startup => if blueprint.settings.enableRegistry then .publish else .assemble
  | .shutdown => .reportHooks failures

/-- A hook comes to its end, which is told, and at startup a fatal failure ends the run of hooks. -/
def endHook (host : Host σ ρ) (phase : Phase) (failures : Nat) (hook : Hook)
    (rest : List Hook) : Turn σ ρ :=
  let failed := failures + if hook.hasFailed then 1 else 0
  match phase with
  | .startup =>
      let next :=
        match hook.abortsWith? with
        | some failure => .reportFailure (.hook failure)
        | none => .runHooks .startup failed rest
      { host, next, journal := hook.startupReport }
  | .shutdown =>
      { host, next := .runHooks .shutdown failed rest, journal := hook.shutdownReport }

/--
A step of the withdrawal of endpoints, each of which is untracked before the registry is
told.
-/
def withdrawalStep (blueprint : Blueprint σ ρ) (host : Host σ ρ) (purpose : Purpose) :
    Withdrawal → Turn σ ρ
  | .untrack [] => { host, next := .afterWithdrawal purpose }
  | .untrack (endpoint :: rest) =>
      let step := host.registrar.untrack endpoint
      { host := { host with registrar := step.registrar }
        next := .withdraw purpose (if step.value then .tell endpoint rest else .untrack rest)
        journal := step.journal }
  | .tell endpoint rest =>
      let next := Job.withdraw purpose (.untrack rest)
      match blueprint.client with
      | none => { host, next }
      | some client =>
          let step := host.registrar.withdraw client endpoint
          { host := { host with registrar := step.registrar }, next, journal := step.journal }

/-- A step of the stopping of listeners. A listener that is still open is waited for. -/
def stoppingStep (host : Host σ ρ) (purpose : Option Purpose) : Stopping → Option (Turn σ ρ)
  | .take =>
      let next :=
        if host.listeners.isEmpty then .afterStop purpose
        else .stop purpose (.dismiss host.listeners)
      some { host := { host with listening := none }, next }
  | .dismiss listeners =>
      some
        { host := { host with network := setStages .draining listeners host.network }
          next := .stop purpose (.await listeners) }
  | .await [] =>
      some { host, next := .afterStop purpose, journal := [.metric (.openListeners 0)] }
  | .await (listener :: rest) =>
      if host.network.isOpen listener.handle then none
      else
        some
          { host, next := .stop purpose (.await rest)
            journal := listener.farewell host.network.rules }

/-- A step that leaves the host as it is, with the result of a part that may fail. -/
def proceed {α : Type} (host : Host σ ρ) (part : Recorded HostError α) (next : α → Job σ) :
    Turn σ ρ :=
  match part.outcome with
  | .error failure => { host, next := .reportFailure failure, journal := part.journal }
  | .ok value => { host, next := next value, journal := part.journal }

/-- The next step of a job, unless the job is over or has to wait. -/
def step (blueprint : Blueprint σ ρ) (host : Host σ ρ) : Job σ → Option (Turn σ ρ)
  | .begin =>
      let (moved, host) := host.advance .notStarted .starting
      match moved with
      | .ok () => some { host, next := .reportBegun }
      | .error found => some { host, next := .refuseToBegin found }
  | .refuseToBegin found =>
      some
        { host, next := .done (.error (.invalidState "start" found))
          journal :=
            [startupEvent .warn "Start requested in invalid state"
              [("state", .text found.name)]] }
  | .reportBegun => some { host, next := .armSignals, journal := moved .notStarted .starting }
  | .armSignals =>
      if blueprint.handlesSignals && !host.signalsArmed then
        some
          { host := { host with signalsArmed := true }, next := .validate
            journal := [.log .debug .signals "Termination signal hook installed"]
            spawned := [.awaitSignal] }
      else some { host, next := .validate }
  | .validate =>
      let problems := blueprint.settings.problems
      if problems.isEmpty then
        some { host, next := .runHooks .startup 0 blueprint.startupHooks }
      else
        some
          { host, next := .reportFailure (.configuration problems)
            journal := problems.map fun problem =>
              startupEvent .error problem.message [("field", .text problem.field)] }
  | .runHooks phase failures [] => some { host, next := blueprint.afterHooks failures phase }
  | .runHooks phase failures (hook :: rest) =>
      some { host, next := .runHook phase failures hook hook.actions rest, journal := [hook.began] }
  | .runHook phase failures hook (action :: actions) rest =>
      some (act host hook action (.runHook phase failures hook actions rest))
  | .runHook phase failures hook [] rest => some (endHook host phase failures hook rest)
  | .publish =>
      let settings := blueprint.settings
      match blueprint.client with
      | none =>
          some
            { host, next := .reportFailure .registryUnavailable
              journal := [Registrar.missingRegistry settings] }
      | some _ =>
          let (address, journal) := Registrar.reachableAddress blueprint.probe settings.ip
          some { host, next := .offer (Registrar.endpointsFor settings address), journal }
  | .offer [] => some { host, next := .finishPublishing }
  | .offer (endpoint :: rest) =>
      match blueprint.client with
      | none => some { host, next := .reportFailure .registryUnavailable }
      | some client =>
          let step := host.registrar.offer client endpoint
          let next :=
            match step.value with
            | .ok () => .track endpoint rest
            | .error refusal => .reportFailure (.registry refusal)
          some
            { host := { host with registrar := step.registrar }, next, journal := step.journal }
  | .track endpoint rest =>
      let step := host.registrar.track endpoint
      some
        { host := { host with registrar := step.registrar }, next := .offer rest
          journal := step.journal }
  | .finishPublishing =>
      some
        { host := { host with registrar := host.registrar.markRegistered }, next := .assemble
          journal :=
            [startupEvent .debug "Endpoints registered"
              [("endpoints", .number blueprint.settings.enabledProtocols.length)]] }
  | .assemble =>
      some (proceed host (Plugin.assemble blueprint.providers blueprint.middleware) fun chain =>
        if blueprint.settings.enableHttps then .secure chain else .compose chain false)
  | .secure chain =>
      let making := Tls.Context.build blueprint.acceptance blueprint.settings blueprint.material
      some (proceed host making fun _ => .compose chain true)
  | .compose chain hasContext =>
      match Http.Posture.ofSettings? blueprint.settings with
      | none => some { host, next := .brokenDown }
      | some (posture, journal) =>
          some { host, next := .listen (posture.service chain) hasContext, journal }
  | .listen service hasContext =>
      let opening := openListeners blueprint.settings hasContext host.network
      let next :=
        match opening.outcome with
        | .error failure => .reportFailure failure
        | .ok listeners => .keep service listeners
      some { host := { host with network := opening.network }, next, journal := opening.journal }
  | .keep service listeners =>
      some
        { host := { host with listening := some { listeners }, service := some service }
          next := if blueprint.settings.enableRegistry then .turnHeartbeatOn else .enterRunning }
  | .turnHeartbeatOn =>
      let step := host.registrar.activateHeartbeat
      some
        { host := { host with registrar := step.registrar }, next := .enterRunning
          journal := step.journal }
  | .enterRunning =>
      let (moved, host) := host.advance .starting .running
      match moved with
      | .ok () => some { host, next := .reportRunning }
      | .error _ => some { host, next := .lookForPending }
  | .reportRunning => some { host, next := .announceStart, journal := moved .starting .running }
  | .announceStart =>
      some
        { host, next := .lookForPending
          journal :=
            [startupEvent .info "Server started"
              [("service_id", .text blueprint.settings.serviceId),
                ("listeners", .text (listenersText host.listeners))]] }
  | .lookForPending =>
      some
        { host := { host with shutdownPending := false }
          next := if host.shutdownPending then .resumeShutdown else .done (.ok ()) }
  | .resumeShutdown =>
      some
        { host, next := .claim
          journal := [startupEvent .info "Running shutdown requested during startup"] }
  | .reportFailure failure =>
      some
        { host, next := .withdrawAll (.rollback failure)
          journal :=
            [startupEvent .error "Server startup failed"
              [("service_id", .text blueprint.settings.serviceId),
                ("error", .text failure.message)]] }
  | .forgetPending failure =>
      some { host := { host with shutdownPending := false }, next := .giveUp failure }
  | .giveUp failure =>
      let (moved, host) := host.advance .starting .stopped
      match moved with
      | .ok () => some { host, next := .reportGivenUp failure }
      | .error _ => some { host, next := .done (.error failure) }
  | .reportGivenUp failure =>
      some { host, next := .done (.error failure), journal := moved .starting .stopped }
  | .awaitSignal =>
      if host.signalled then
        some
          { host, next := .claim, journal := [.log .info .signals "Termination signal received"] }
      else none
  | .claim =>
      let (claim, host) := host.claimShutdown
      some { host, next := .reportClaim claim }
  | .reportClaim claim => some { host, next := .afterClaim claim, journal := claim.report }
  | .announceShutdown =>
      some
        { host, next := .turnHeartbeatOff
          journal :=
            [shutdownEvent .info "Shutting down server"
              [("service_id", .text blueprint.settings.serviceId)]] }
  | .turnHeartbeatOff =>
      let step := host.registrar.deactivateHeartbeat
      some
        { host := { host with registrar := step.registrar }, next := .withdrawAll .shutdown
          journal := step.journal }
  | .announceCleanUp =>
      some
        { host, next := .runHooks .shutdown 0 blueprint.shutdownHooks
          journal := [shutdownEvent .info "Cleaning up before server shutdown"] }
  | .reportHooks failures =>
      let warning :=
        shutdownEvent .warn "Some shutdown hooks failed" [("failures", .number failures)]
      some
        { host, next := .stop (some .shutdown) .take
          journal := if failures = 0 then [] else [warning] }
  | .enterStopped =>
      let (moved, host) := host.advance .shuttingDown .stopped
      match moved with
      | .ok () => some { host, next := .reportStopped }
      | .error _ => some { host, next := .announceEnd }
  | .reportStopped => some { host, next := .announceEnd, journal := moved .shuttingDown .stopped }
  | .announceEnd =>
      some { host, next := .done (.ok ()), journal := [shutdownEvent .info "Server stopped"] }
  | .withdrawAll purpose =>
      some { host, next := .withdraw purpose (.untrack host.registrar.tracked) }
  | .withdraw purpose withdrawal => some (blueprint.withdrawalStep host purpose withdrawal)
  | .stop purpose stopping => stoppingStep host purpose stopping
  | .done _ => none
  | .brokenDown => none

end Blueprint

end PluggableHost.Lifecycle
