import Mathlib.Algebra.Ring.Nat
import PluggableHost.Proofs.Lifecycle.Stages

namespace PluggableHost.Lifecycle

open PluggableHost.Http PluggableHost.Net PluggableHost.Observability PluggableHost.Plugin
open PluggableHost.Registry

/-!
# How many steps are left

Every job has so many steps to take at most, whatever others do meanwhile.  The
number is known from the job and from the blueprint, and every step lowers it.
-/

variable {σ ρ : Type}

/-- How many steps hooks take at most. -/
def hookSteps (hooks : List Hook) : Nat :=
  (hooks.map fun hook => hook.actions.length + 2).sum

/-- How many steps a withdrawal takes at most. -/
def Withdrawal.stepsLeft : Withdrawal → Nat
  | untrack endpoints => 2 * endpoints.length + 1
  | tell _ rest => 2 * rest.length + 2

/-- How many steps a stop takes at most, when there are so many listeners. -/
def Stopping.stepsLeft (most : Nat) : Stopping → Nat
  | take => most + 3
  | dismiss listeners => listeners.length + 2
  | await listeners => listeners.length + 1

namespace Blueprint

/-- How many listeners a host has at most. -/
def mostListeners (blueprint : Blueprint σ ρ) : Nat :=
  blueprint.settings.enabledProtocols.length

/-- How many steps a withdrawal of all endpoints takes at most, and its beginning. -/
def stepsToWithdraw (blueprint : Blueprint σ ρ) : Nat :=
  2 * blueprint.endpoints.length + 2

/-- How many steps a shutdown takes at most, from the end of its hooks on. -/
def stepsAfterHooks (blueprint : Blueprint σ ρ) : Nat :=
  blueprint.mostListeners + 7

/-- How many steps a shutdown takes at most, from the clean-up on. -/
def stepsToCleanUp (blueprint : Blueprint σ ρ) : Nat :=
  hookSteps blueprint.shutdownHooks + blueprint.stepsAfterHooks + 2

/-- How many steps a shutdown takes at most. -/
def stepsToShutDown (blueprint : Blueprint σ ρ) : Nat :=
  blueprint.stepsToWithdraw + blueprint.stepsToCleanUp + 4

/-- How many steps a start takes at most, once everything is published. -/
def stepsToOpen (blueprint : Blueprint σ ρ) : Nat :=
  blueprint.stepsToShutDown + 12

/-- How many steps a start takes at most, from the end of its hooks on. -/
def stepsToPublish (blueprint : Blueprint σ ρ) : Nat :=
  blueprint.stepsToWithdraw + blueprint.stepsToOpen

/-- How many steps an errand takes at most. -/
def mostSteps (blueprint : Blueprint σ ρ) : Nat :=
  hookSteps blueprint.startupHooks + blueprint.stepsToPublish + 5

/-- How many steps are left after endpoints have been withdrawn. -/
def stepsAfterWithdrawal (blueprint : Blueprint σ ρ) : Purpose → Nat
  | .rollback _ => blueprint.mostListeners + 6
  | .shutdown => blueprint.stepsToCleanUp

/-- How many steps are left when all hooks of a phase have run. -/
def stepsAfterPhase (blueprint : Blueprint σ ρ) : Phase → Nat
  | .startup => blueprint.stepsToPublish
  | .shutdown => blueprint.stepsAfterHooks

/-- How many steps are left when listeners have been stopped. -/
def stepsAfterStop : Option Purpose → Nat
  | none => 0
  | some _ => 3

end Blueprint

namespace Job

/-- How many steps a job has to take at most. -/
def stepsLeft (blueprint : Blueprint σ ρ) : Job σ → Nat
  | begin => blueprint.mostSteps
  | reportBegun => hookSteps blueprint.startupHooks + blueprint.stepsToPublish + 4
  | armSignals => hookSteps blueprint.startupHooks + blueprint.stepsToPublish + 3
  | validate => hookSteps blueprint.startupHooks + blueprint.stepsToPublish + 2
  | runHooks phase _ hooks =>
      hookSteps hooks + blueprint.stepsAfterPhase phase + 1
  | runHook phase _ _ actions rest =>
      actions.length + hookSteps rest + blueprint.stepsAfterPhase phase + 2
  | publish => blueprint.stepsToPublish
  | offer endpoints => 2 * endpoints.length + blueprint.stepsToOpen + 1
  | track _ rest => 2 * rest.length + blueprint.stepsToOpen + 2
  | finishPublishing => blueprint.stepsToOpen
  | assemble => blueprint.stepsToShutDown + 11
  | secure _ => blueprint.stepsToShutDown + 10
  | compose _ _ => blueprint.stepsToShutDown + 9
  | listen _ _ => blueprint.stepsToShutDown + 8
  | keep _ _ => blueprint.stepsToShutDown + 7
  | turnHeartbeatOn => blueprint.stepsToShutDown + 6
  | enterRunning => blueprint.stepsToShutDown + 5
  | reportRunning => blueprint.stepsToShutDown + 4
  | announceStart => blueprint.stepsToShutDown + 3
  | lookForPending => blueprint.stepsToShutDown + 2
  | resumeShutdown | awaitSignal => blueprint.stepsToShutDown + 1
  | claim => blueprint.stepsToShutDown
  | reportClaim _ =>
      blueprint.stepsToWithdraw + blueprint.stepsToCleanUp + 3
  | announceShutdown =>
      blueprint.stepsToWithdraw + blueprint.stepsToCleanUp + 2
  | turnHeartbeatOff =>
      blueprint.stepsToWithdraw + blueprint.stepsToCleanUp + 1
  | withdrawAll purpose =>
      blueprint.stepsToWithdraw + blueprint.stepsAfterWithdrawal purpose
  | withdraw purpose withdrawal =>
      withdrawal.stepsLeft + blueprint.stepsAfterWithdrawal purpose
  | announceCleanUp => blueprint.stepsToCleanUp
  | reportHooks _ => blueprint.stepsAfterHooks
  | stop purpose stopping =>
      stopping.stepsLeft blueprint.mostListeners +
        Blueprint.stepsAfterStop purpose
  | reportFailure _ =>
      blueprint.stepsToWithdraw + blueprint.mostListeners + 7
  | forgetPending _ | enterStopped => 3
  | giveUp _ | reportStopped => 2
  | refuseToBegin _ | reportGivenUp _ | announceEnd => 1
  | done _ | brokenDown => 0

/-- The job has broken down. -/
def isBroken : Job σ → Bool
  | brokenDown => true
  | _ => false

end Job

namespace Blueprint

variable
  {blueprint : Blueprint σ ρ}
  {host : Host σ ρ}
  {job : Job σ}
  {turn : Turn σ ρ}

/-- A start that fails has no more steps to take than one that succeeds. -/
theorem stepsToRollBack_lt
    (blueprint : Blueprint σ ρ) :
    blueprint.stepsToWithdraw + blueprint.mostListeners + 7 <
      blueprint.stepsToShutDown := by
  simp only [stepsToShutDown, stepsToCleanUp, stepsAfterHooks]
  omega

/-- What a step brings closer, and what it does not break. -/
structure Advances
    (blueprint : Blueprint σ ρ)
    (job next : Job σ) : Prop where
  nearer : next.stepsLeft blueprint < job.stepsLeft blueprint
  whole :
    next.isBroken = true →
      Posture.ofSettings? blueprint.settings = none

/-- A job that has fewer steps left and is whole advances. -/
theorem advances_of_whole
    {next : Job σ}
    (nearer : next.stepsLeft blueprint < job.stepsLeft blueprint)
    (whole : next.isBroken = false) :
    Advances blueprint job next := by
  refine { nearer, whole := ?_ }
  intro broken
  rw [whole] at broken
  cases broken

/-- Every step of a withdrawal advances. -/
theorem advances_of_withdrawal
    (purpose : Purpose)
    (withdrawal : Withdrawal) :
    Advances blueprint (.withdraw purpose withdrawal)
      (blueprint.withdrawalStep host purpose withdrawal).next := by
  cases withdrawal with
  | untrack endpoints =>
      cases endpoints with
      | nil =>
          cases purpose <;>
            refine advances_of_whole ?_ rfl <;>
            simp only [withdrawalStep, Job.afterWithdrawal, Job.stepsLeft,
              Withdrawal.stepsLeft, Stopping.stepsLeft, stepsAfterStop,
              stepsAfterWithdrawal, List.length_nil] <;>
            omega
      | cons endpoint rest =>
          refine advances_of_whole ?_ rfl
          simp only [withdrawalStep]
          split <;>
            simp only [Job.stepsLeft, Withdrawal.stepsLeft,
              List.length_cons] <;>
            omega
  | tell endpoint rest =>
      unfold withdrawalStep
      dsimp only
      split <;>
        refine advances_of_whole ?_ rfl <;>
        simp only [Job.stepsLeft, Withdrawal.stepsLeft] <;>
        omega

/-- Every step of a stop advances while the host keeps no more listeners than it can open. -/
theorem advances_of_stopping
    {purpose : Option Purpose}
    {stopping : Stopping}
    (stepped : stoppingStep host purpose stopping = some turn)
    (few : host.listeners.length ≤ blueprint.mostListeners) :
    Advances blueprint (.stop purpose stopping) turn.next := by
  have ended :
      (Job.afterStop purpose : Job σ).stepsLeft blueprint =
          stepsAfterStop purpose ∧
        (Job.afterStop purpose : Job σ).isBroken = false := by
    cases purpose with
    | none =>
        exact ⟨rfl, rfl⟩
    | some purpose =>
        cases purpose <;>
          exact ⟨rfl, rfl⟩
  cases stopping with
  | take =>
      cases stepped
      dsimp only
      split
      · refine advances_of_whole ?_ ended.2
        rw [ended.1]
        simp only [Job.stepsLeft, Stopping.stepsLeft]
        omega
      · refine advances_of_whole ?_ rfl
        simp only [Job.stepsLeft, Stopping.stepsLeft]
        omega
  | dismiss listeners =>
      cases stepped
      refine advances_of_whole ?_ rfl
      simp only [Job.stepsLeft, Stopping.stepsLeft]
      omega
  | await listeners =>
      cases listeners with
      | nil =>
          cases stepped
          refine advances_of_whole ?_ ended.2
          rw [ended.1]
          simp only [Job.stepsLeft, Stopping.stepsLeft]
          omega
      | cons listener rest =>
          simp only [stoppingStep] at stepped
          split at stepped <;> cases stepped
          refine advances_of_whole ?_ rfl
          simp only [Job.stepsLeft, Stopping.stepsLeft, List.length_cons]
          omega

/--
Every step brings an errand closer to its end: a step of a start leads on or to its
failure, which is shorter than any way on.
-/
theorem advances_of_step
    (stepped : blueprint.step host job = some turn)
    (few : host.listeners.length ≤ blueprint.mostListeners)
    (listed :
      ∀ purpose, job = .withdrawAll purpose →
        host.registrar.tracked.length ≤ blueprint.endpoints.length) :
    Advances blueprint job turn.next := by
  have rollBack := blueprint.stepsToRollBack_lt
  cases job with
  | withdraw purpose withdrawal =>
      cases stepped
      exact advances_of_withdrawal purpose withdrawal
  | stop purpose stopping =>
      exact advances_of_stopping stepped few
  | withdrawAll purpose =>
      cases stepped
      have short := listed purpose rfl
      refine advances_of_whole ?_ rfl
      simp only [Job.stepsLeft, Withdrawal.stepsLeft, stepsToWithdraw]
      omega
  | compose chain hasContext =>
      cases composed : Posture.ofSettings? blueprint.settings with
      | none =>
          simp only [step, composed] at stepped
          cases stepped
          exact { nearer := Nat.succ_pos _, whole := fun _ => composed }
      | some posture =>
          simp only [step, composed] at stepped
          cases stepped
          exact advances_of_whole (Nat.lt_succ_self _) rfl
  | publish =>
      simp only [step] at stepped
      split at stepped <;>
        cases stepped <;>
        refine advances_of_whole ?_ rfl
      · simp only [Job.stepsLeft, stepsToPublish, stepsToOpen]
        omega
      · show 2 * blueprint.endpoints.length + blueprint.stepsToOpen + 1 <
          2 * blueprint.endpoints.length + 2 + blueprint.stepsToOpen
        omega
  | offer endpoints =>
      cases endpoints with
      | nil =>
          cases stepped
          refine advances_of_whole ?_ rfl
          simp only [Job.stepsLeft, List.length_nil]
          omega
      | cons endpoint rest =>
          simp only [step] at stepped
          (repeat' split at stepped) <;>
            cases stepped <;>
            refine advances_of_whole ?_ rfl <;>
            simp only [Job.stepsLeft, stepsToOpen, List.length_cons] <;>
            omega
  | runHooks phase failures hooks =>
      cases hooks with
      | nil =>
          cases stepped
          cases phase with
          | startup =>
              simp only [afterHooks]
              split <;>
                refine advances_of_whole ?_ rfl <;>
                simp only [Job.stepsLeft, stepsAfterPhase, stepsToPublish,
                  stepsToOpen, hookSteps, List.map_nil, List.sum_nil] <;>
                omega
          | shutdown =>
              refine advances_of_whole ?_ rfl
              simp only [afterHooks, Job.stepsLeft, stepsAfterPhase]
              omega
      | cons hook rest =>
          cases stepped
          refine advances_of_whole ?_ rfl
          simp only [Job.stepsLeft, hookSteps, List.map_cons,
            List.sum_cons]
          omega
  | runHook phase failures hook actions rest =>
      cases actions with
      | nil =>
          cases stepped
          cases phase with
          | startup =>
              simp only [endHook]
              split <;>
                refine advances_of_whole ?_ rfl <;>
                simp only [Job.stepsLeft, stepsAfterPhase, stepsToPublish,
                  stepsToOpen, List.length_nil] <;>
                omega
          | shutdown =>
              refine advances_of_whole ?_ rfl
              simp only [endHook, Job.stepsLeft, List.length_nil]
              omega
      | cons action others =>
          cases stepped
          have nearer :
              (Job.runHook phase failures hook others rest :
                  Job σ).stepsLeft blueprint <
                (Job.runHook phase failures hook (action :: others) rest :
                  Job σ).stepsLeft blueprint := by
            simp only [Job.stepsLeft, List.length_cons]
            omega
          cases action with
          | shutdown =>
              simp only [act]
              split <;>
                exact advances_of_whole nearer rfl
          | _ =>
              exact advances_of_whole nearer rfl
  | reportClaim claim =>
      cases claim <;>
        cases stepped <;>
        refine advances_of_whole ?_ rfl <;>
        simp only [Job.afterClaim, Job.stepsLeft] <;>
        omega
  | _ =>
      simp only [step, proceed] at stepped
      (repeat' split at stepped) <;>
        cases stepped <;>
        refine advances_of_whole ?_ rfl <;>
        simp only [Job.stepsLeft, mostSteps, stepsToPublish, stepsToOpen,
          stepsAfterPhase, stepsToShutDown, stepsToCleanUp,
          stepsAfterHooks, stepsAfterWithdrawal, Stopping.stepsLeft,
          stepsAfterStop] at * <;>
        omega

end Blueprint

end PluggableHost.Lifecycle
