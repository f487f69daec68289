import PluggableHost.Proofs.Lifecycle.Custody
import PluggableHost.Proofs.Lifecycle.Sparing
import PluggableHost.Proofs.Registry.Telling

namespace PluggableHost.Lifecycle

open PluggableHost.Http PluggableHost.Net PluggableHost.Observability
open PluggableHost.Plugin PluggableHost.Registry

/-!
# What a step writes

Which calls of the registry, which hook and which new state the journal of a step
tells of, and what the step leaves on the list of tracked endpoints, is known from
the job alone.
-/

variable {σ ρ : Type}

namespace Job

/-- The endpoint that the registry is to be asked for next. -/
def offering : Job σ → List Endpoint
  | offer (endpoint :: _) => [endpoint]
  | _ => []

/-- The endpoint that the registry is to be told of next. -/
def telling : Job σ → List Endpoint
  | withdraw _ (.tell endpoint _) => [endpoint]
  | _ => []

/-- The name of the hook that is to be run next. -/
def running : Job σ → List String
  | runHooks _ _ (hook :: _) => [hook.name]
  | _ => []

/-- The list of tracked endpoints after the next step. -/
def tracking
    (tracked : List Endpoint) : Job σ → List Endpoint
  | track endpoint _ => tracked ++ [endpoint]
  | withdraw _ (.untrack (endpoint :: _)) => tracked.erase endpoint
  | _ => tracked

end Job

namespace Host

@[simp] theorem registrar_advance
    (host : Host σ ρ)
    (source target : State) :
    (host.advance source target).2.registrar = host.registrar := by
  unfold advance
  split <;> rfl

@[simp] theorem registrar_claimShutdown
    (host : Host σ ρ) :
    host.claimShutdown.2.registrar = host.registrar := by
  unfold claimShutdown
  split <;> rfl

end Host

namespace Blueprint

variable
  {blueprint : Blueprint σ ρ}
  {host : Host σ ρ}
  {job : Job σ}
  {turn : Turn σ ρ}

/-- Calls of the registry, if there is one. -/
def called
    (blueprint : Blueprint σ ρ)
    (endpoints : List Endpoint) : List Endpoint :=
  if blueprint.client.isSome then endpoints else []

/-- What a step writes, as far as the registry, the hooks and the state are concerned. -/
structure Writes
    (blueprint : Blueprint σ ρ)
    (host : Host σ ρ)
    (job : Job σ)
    (turn : Turn σ ρ) : Prop where
  tracked :
    turn.host.registrar.tracked = job.tracking host.registrar.tracked
  offered : offers turn.journal = blueprint.called job.offering
  withdrawn : withdrawals turn.journal = blueprint.called job.telling
  ran : hooksRun turn.journal = job.running
  reported : transitions turn.journal = job.unreported?.toList

@[simp] theorem called_nil : blueprint.called [] = [] := by
  simp [called]

/-- A step that spares the registry, the hooks and the state. -/
theorem writes_of_spares
    (spares : Spares turn.journal)
    (same : turn.host.registrar.tracked = host.registrar.tracked)
    (tracking :
      job.tracking host.registrar.tracked = host.registrar.tracked)
    (offering : job.offering = [])
    (telling : job.telling = [])
    (running : job.running = [])
    (reported : job.unreported? = none) :
    blueprint.Writes host job turn := by
  obtain ⟨offered, withdrawn, hookless, silent⟩ :=
    nothing_of_spares spares
  constructor
  · rw [same, tracking]
  · rw [offered, offering, called_nil]
  · rw [withdrawn, telling, called_nil]
  · rw [hookless, running]
  · rw [silent, reported]
    rfl

/-- A part that may fail leaves the host to itself. -/
theorem writes_of_proceed
    {α : Type}
    {part : Recorded HostError α}
    (next : α → Job σ)
    (spares : Spares part.journal)
    (tracking :
      job.tracking host.registrar.tracked = host.registrar.tracked)
    (offering : job.offering = [])
    (telling : job.telling = [])
    (running : job.running = [])
    (reported : job.unreported? = none) :
    blueprint.Writes host job (proceed host part next) := by
  unfold proceed
  split <;>
    exact writes_of_spares spares rfl tracking offering telling running
      reported

/-- A hook in its place writes notes about what it sees. -/
theorem writes_of_act
    {phase : Phase}
    {failures : Nat}
    {hook : Hook}
    {actions : List HookAction}
    {rest : List Hook}
    (action : HookAction)
    (next : Job σ)
    (inPlace :
      (Job.runHook phase failures hook (action :: actions) rest :
        Job σ).InPlace host.state) :
    blueprint.Writes host
      (.runHook phase failures hook (action :: actions) rest)
      (act host hook action next) := by
  have held := inPlace phase rfl
  cases action with
  | shutdown =>
      rcases claimShutdown_cases host with
        ⟨claimed, state⟩ | ⟨claimed, state⟩ | ⟨claimed, state⟩ |
          ⟨claimed, state⟩
      · simp [state, State.phase?] at held
      · simp [state, State.phase?] at held
      · simp only [act, claimed]
        exact writes_of_spares
          (spares_cons rfl (spares_singleton rfl)) rfl rfl rfl rfl rfl rfl
      · simp only [act, claimed]
        exact writes_of_spares
          (spares_cons rfl (spares_singleton rfl)) rfl rfl rfl rfl rfl rfl
  | _ =>
      exact writes_of_spares (spares_singleton rfl)
            rfl rfl rfl rfl rfl rfl

/-- A step of a withdrawal writes what its kind may write. -/
theorem writes_of_withdrawal
    (purpose : Purpose)
    (withdrawal : Withdrawal) :
    blueprint.Writes host (.withdraw purpose withdrawal)
      (blueprint.withdrawalStep host purpose withdrawal) := by
  cases withdrawal with
  | untrack endpoints =>
      cases endpoints with
      | nil =>
          exact writes_of_spares spares_nil rfl rfl rfl rfl rfl rfl
      | cons endpoint rest =>
          have told := Registrar.telling_untrack endpoint host.registrar
          constructor
          · exact told.tracked
          · exact told.offered.trans called_nil.symm
          · exact told.withdrawn.trans called_nil.symm
          · exact told.hookless
          · exact told.silent
  | tell endpoint rest =>
      cases found : blueprint.client with
      | none =>
          constructor <;>
            simp [withdrawalStep, found, called, Job.tracking,
              Job.running, Job.unreported?]
      | some client =>
          have told :=
            Registrar.telling_withdraw client endpoint host.registrar
          constructor <;>
            simp [withdrawalStep, found, called, Job.tracking,
              Job.offering, Job.telling, Job.running, Job.unreported?,
              told.tracked, told.offered, told.withdrawn, told.hookless,
              told.silent]

/-- A step of a stop writes what its kind may write. -/
theorem writes_of_stopping
    {purpose : Option Purpose}
    {stopping : Stopping}
    (stepped : stoppingStep host purpose stopping = some turn) :
    blueprint.Writes host (.stop purpose stopping) turn := by
  cases stopping with
  | take =>
      cases stepped
      exact writes_of_spares spares_nil rfl rfl rfl rfl rfl rfl
  | dismiss listeners =>
      cases stepped
      exact writes_of_spares spares_nil rfl rfl rfl rfl rfl rfl
  | await listeners =>
      cases listeners with
      | nil =>
          cases stepped
          exact writes_of_spares (spares_singleton rfl)
            rfl rfl rfl rfl rfl rfl
      | cons listener rest =>
          simp only [stoppingStep] at stepped
          split at stepped <;> cases stepped
          exact writes_of_spares (spares_farewell _ listener)
            rfl rfl rfl rfl rfl rfl

/--
Every step writes what its kind may write, which for most is a fixed event or the report
of a move.
-/
theorem writes_of_step
    (stepped : blueprint.step host job = some turn)
    (inPlace : job.InPlace host.state) :
    blueprint.Writes host job turn := by
  cases job with
  | reportClaim claim =>
      cases claim <;>
        cases stepped <;>
          constructor <;>
            simp [Claim.report, moved, shutdownEvent, Job.tracking,
              Job.offering, Job.telling, Job.running, Job.unreported?]
  | offer endpoints =>
      cases endpoints with
      | nil =>
          cases stepped
          exact writes_of_spares spares_nil rfl rfl rfl rfl rfl rfl
      | cons endpoint rest =>
          cases found : blueprint.client with
          | none =>
              simp only [step, found] at stepped
              cases stepped
              constructor <;>
                simp [found, called, Job.tracking, Job.running,
                  Job.unreported?]
          | some client =>
              have told :=
                Registrar.telling_offer client endpoint host.registrar
              simp only [step, found] at stepped
              cases stepped
              constructor <;>
                simp [found, called, Job.tracking, Job.offering,
                  Job.telling, Job.running, Job.unreported?, told.tracked,
                  told.offered, told.withdrawn, told.hookless, told.silent]
  | track endpoint rest =>
      have told := Registrar.telling_track endpoint host.registrar
      cases stepped
      constructor
      · exact told.tracked
      · exact told.offered.trans called_nil.symm
      · exact told.withdrawn.trans called_nil.symm
      · exact told.hookless
      · exact told.silent
  | turnHeartbeatOn =>
      have told := Registrar.telling_activateHeartbeat host.registrar
      cases stepped
      constructor
      · exact told.tracked
      · exact told.offered.trans called_nil.symm
      · exact told.withdrawn.trans called_nil.symm
      · exact told.hookless
      · exact told.silent
  | turnHeartbeatOff =>
      have told := Registrar.telling_deactivateHeartbeat host.registrar
      cases stepped
      constructor
      · exact told.tracked
      · exact told.offered.trans called_nil.symm
      · exact told.withdrawn.trans called_nil.symm
      · exact told.hookless
      · exact told.silent
  | withdraw purpose withdrawal =>
      cases stepped
      exact writes_of_withdrawal purpose withdrawal
  | stop purpose stopping =>
      exact writes_of_stopping stepped
  | runHooks phase failures hooks =>
      cases hooks with
      | nil =>
          cases stepped
          exact writes_of_spares spares_nil rfl rfl rfl rfl rfl rfl
      | cons hook rest =>
          cases stepped
          constructor
          · rfl
          · exact called_nil.symm
          · exact called_nil.symm
          · rfl
          · rfl
  | runHook phase failures hook actions rest =>
      cases actions with
      | nil =>
          cases stepped
          cases phase with
          | startup =>
              exact writes_of_spares (spares_startupReport hook)
                rfl rfl rfl rfl rfl rfl
          | shutdown =>
              exact writes_of_spares (spares_shutdownReport hook)
                rfl rfl rfl rfl rfl rfl
      | cons action others =>
          cases stepped
          exact writes_of_act action _ inPlace
  | publish =>
      simp only [step] at stepped
      split at stepped <;> cases stepped
      · exact writes_of_spares (spares_singleton rfl)
          rfl rfl rfl rfl rfl rfl
      · exact writes_of_spares (spares_reachableAddress _ _)
          rfl rfl rfl rfl rfl rfl
  | validate =>
      simp only [step] at stepped
      split at stepped <;> cases stepped
      · exact writes_of_spares spares_nil rfl rfl rfl rfl rfl rfl
      · exact writes_of_spares (spares_problems _)
          rfl rfl rfl rfl rfl rfl
  | assemble =>
      cases stepped
      exact writes_of_proceed _ (spares_assemble _ _) rfl rfl rfl rfl rfl
  | secure chain =>
      cases stepped
      exact writes_of_proceed _ (spares_build _ _ _) rfl rfl rfl rfl rfl
  | compose chain hasContext =>
      cases composed : Posture.ofSettings? blueprint.settings with
      | none =>
          simp only [step, composed] at stepped
          cases stepped
          exact writes_of_spares spares_nil rfl rfl rfl rfl rfl rfl
      | some posture =>
          simp only [step, composed] at stepped
          cases stepped
          exact writes_of_spares (spares_ofSettings? composed)
            rfl rfl rfl rfl rfl rfl
  | listen service hasContext =>
      cases stepped
      exact writes_of_spares (spares_openListeners _ _ _)
        rfl rfl rfl rfl rfl rfl
  | _ =>
      simp only [step] at stepped
      (repeat' split at stepped) <;>
        cases stepped <;>
          constructor <;>
            simp [Job.tracking, Job.offering, Job.telling, Job.running,
              Job.unreported?, moved, startupEvent, shutdownEvent,
              Registrar.markRegistered]

end Blueprint

end PluggableHost.Lifecycle
