import PluggableHost.Proofs.Lifecycle.Custody
import PluggableHost.Proofs.Net.Binding
import PluggableHost.Proofs.Tls.Making

namespace PluggableHost.Lifecycle

open PluggableHost.Config PluggableHost.Net PluggableHost.Observability
open PluggableHost.Plugin PluggableHost.Tls

/-!
# Settings that were found valid are not blamed later

The settings are looked at once, when a host starts.  After that no job fails
because of them, whatever else it fails of.
-/

variable
  {σ ρ : Type}

/-- The failure that a job has come to, and will report. -/
def Job.failure? : Job σ → Option HostError
  | .reportFailure failure
  | .forgetPending failure
  | .giveUp failure
  | .reportGivenUp failure
  | .withdrawAll (.rollback failure)
  | .withdraw (.rollback failure) _
  | .stop (some (.rollback failure)) _
  | .done (.error failure) => some failure
  | _ => none

/-- A failure that is not about settings. -/
def BeyondSettings : HostError → Prop
  | .configuration _ => False
  | _ => True

/-- Whatever a job has failed of, it is not the settings. -/
def Job.Blameless (job : Job σ) : Prop :=
  ∀ failure, job.failure? = some failure → BeyondSettings failure

/-- A job without a failure is blameless. -/
theorem Job.blameless_of_none
    {job : Job σ}
    (going : job.failure? = none) :
    job.Blameless := by
  intro failure failed
  rw [going] at failed
  cases failed

/-- A job with a failure beyond the settings is blameless. -/
theorem Job.blameless_of_some
    {job : Job σ}
    {failure : HostError}
    (failed : job.failure? = some failure)
    (beyond : BeyondSettings failure) :
    job.Blameless := by
  intro other found
  cases failed.symm.trans found
  exact beyond

/-! ## The parts of a start -/

/-- An assembly does not fail for the settings. -/
theorem beyondSettings_assemble
    (providers : List (Provider σ))
    (middleware : List (Middleware σ)) :
    (assemble providers middleware).Fails BeyondSettings := by
  have resolving : (resolveRoot providers).Fails BeyondSettings := by
    refine Recorded.fails_bind (Recorded.fails_notes _) fun _ _ => ?_
    split
    · exact Recorded.fails_pure _
    · exact Recorded.fails_bind (Recorded.fails_note _) fun _ _ =>
        Recorded.fails_fail trivial
  refine Recorded.fails_bind resolving fun _ _ => ?_
  refine Recorded.fails_bind (Recorded.fails_note _) fun _ _ => ?_
  refine Recorded.fails_bind (Recorded.fails_notes _) fun _ _ => ?_
  refine Recorded.fails_bind (Recorded.fails_notes _) fun _ _ => ?_
  refine Recorded.fails_bind (Recorded.fails_notes _) fun _ _ => ?_
  exact Recorded.fails_pure _

/-- With dependable settings a context does not fail for them. -/
theorem beyondSettings_build
    {settings : Settings}
    (dependable : settings.Dependable)
    (acceptance : Acceptance)
    (source : MaterialSource) :
    (Context.build acceptance settings source).Fails BeyondSettings :=
  (refused_build acceptance settings source).mono fun failure refused => by
    cases refused with
    | keystore reason =>
        exact trivial
    | truststore reason twoWay keystore =>
        exact trivial
    | version version asked unsupported =>
        exact absurd (dependable.version version asked) unsupported

/-- With dependable settings listeners do not fail for them. -/
theorem beyondSettings_openListeners
    {settings : Settings}
    (dependable : settings.Dependable)
    {hasContext : Bool}
    {network : Network}
    {failure : HostError}
    (opened :
      (openListeners settings hasContext network).outcome =
        .error failure) :
    BeyondSettings failure := by
  obtain ⟨host, meant⟩ := dependable.address
  rcases refused_of_openListeners_error meant dependable.port opened with
    ⟨-, -, rfl⟩ | ⟨protocol, cause, -, rfl, -⟩
  · exact trivial
  · exact trivial

namespace Blueprint

variable
  {blueprint : Blueprint σ ρ}
  {host : Host σ ρ}
  {job : Job σ}
  {turn : Turn σ ρ}

/-- What follows a part that does not fail for the settings is blameless. -/
theorem blameless_of_proceed
    {α : Type}
    {part : Recorded HostError α}
    {next : α → Job σ}
    (fails : part.Fails BeyondSettings)
    (going : ∀ value, (next value).failure? = none) :
    (proceed host part next).next.Blameless := by
  unfold proceed
  split
  · next failure failed =>
      exact Job.blameless_of_some rfl (fails failure failed)
  · exact Job.blameless_of_none (going _)

/-- A hook's failure is the hook's. -/
theorem blameless_of_endHook
    (phase : Phase)
    (failures : Nat)
    (hook : Hook)
    (rest : List Hook) :
    (endHook host phase failures hook rest).next.Blameless := by
  cases phase with
  | startup =>
      unfold endHook
      dsimp only
      split
      · exact Job.blameless_of_some rfl trivial
      · exact Job.blameless_of_none rfl
  | shutdown =>
      exact Job.blameless_of_none rfl

/-- Whoever rolls back a start goes on with its failure. -/
theorem failure?_of_withdrawal
    (blueprint : Blueprint σ ρ)
    (host : Host σ ρ)
    (purpose : Purpose)
    (withdrawal : Withdrawal) :
    (blueprint.withdrawalStep host purpose withdrawal).next.failure? =
      (Job.withdraw purpose withdrawal : Job σ).failure? := by
  cases withdrawal with
  | untrack endpoints =>
      cases endpoints with
      | nil =>
          cases purpose <;> rfl
      | cons endpoint rest =>
          cases purpose <;> rfl
  | tell endpoint rest =>
      unfold withdrawalStep
      dsimp only
      split <;>
        cases purpose <;>
          rfl

/-- Whoever stops listeners goes on with its failure. -/
theorem failure?_of_stopping
    {purpose : Option Purpose}
    {stopping : Stopping}
    (stepped : stoppingStep host purpose stopping = some turn) :
    turn.next.failure? = (Job.stop purpose stopping : Job σ).failure? := by
  have after :
      (Job.afterStop purpose : Job σ).failure? =
        (Job.stop purpose stopping : Job σ).failure? := by
    rcases purpose with _ | _ | _ <;> rfl
  have same (other : Stopping) :
      (Job.stop purpose other : Job σ).failure? =
        (Job.stop purpose stopping : Job σ).failure? := by
    rcases purpose with _ | _ | _ <;> rfl
  cases stopping with
  | take =>
      cases stepped
      dsimp only
      split
      · exact after
      · exact same _
  | dismiss listeners =>
      cases stepped
      exact same _
  | await listeners =>
      cases listeners with
      | nil =>
          cases stepped
          exact after
      | cons listener rest =>
          simp only [stoppingStep] at stepped
          split at stepped <;> cases stepped
          exact same _

/--
No step of a job puts the blame on settings that were found valid: only validation does,
and the others go on with the failure they have or fail of the state.
-/
theorem blameless_of_step
    (valid : blueprint.settings.isValid = true)
    (stepped : blueprint.step host job = some turn)
    (blameless : job.Blameless) :
    turn.next.Blameless := by
  have dependable := dependable_of_isValid valid
  cases job with
  | validate =>
      have noProblems : blueprint.settings.problems.isEmpty = true := valid
      simp only [step, noProblems, ↓reduceIte] at stepped
      cases stepped
      exact Job.blameless_of_none rfl
  | offer endpoints =>
      cases endpoints with
      | nil =>
          cases stepped
          exact Job.blameless_of_none rfl
      | cons endpoint rest =>
          simp only [step] at stepped
          split at stepped <;> cases stepped
          · exact Job.blameless_of_some rfl trivial
          · dsimp only
            split
            · exact Job.blameless_of_none rfl
            · exact Job.blameless_of_some rfl trivial
  | publish =>
      simp only [step] at stepped
      split at stepped <;> cases stepped
      · exact Job.blameless_of_some rfl trivial
      · exact Job.blameless_of_none rfl
  | assemble =>
      cases stepped
      refine blameless_of_proceed (beyondSettings_assemble _ _) fun chain => ?_
      split <;> rfl
  | secure chain =>
      cases stepped
      exact blameless_of_proceed (beyondSettings_build dependable _ _)
        fun _ => rfl
  | listen service hasContext =>
      cases stepped
      dsimp only
      split
      · next opened =>
          exact Job.blameless_of_some rfl
            (beyondSettings_openListeners dependable opened)
      · exact Job.blameless_of_none rfl
  | runHooks phase failures hooks =>
      refine Job.blameless_of_none ?_
      cases hooks with
      | nil =>
          cases stepped
          cases phase with
          | startup =>
              simp only [afterHooks]
              split <;> rfl
          | shutdown =>
              rfl
      | cons hook rest =>
          cases stepped
          rfl
  | runHook phase failures hook actions rest =>
      cases actions with
      | nil =>
          cases stepped
          exact blameless_of_endHook phase failures hook rest
      | cons action others =>
          cases stepped
          rw [next_act]
          exact Job.blameless_of_none rfl
  | withdraw purpose withdrawal =>
      cases stepped
      intro failure failed
      rw [failure?_of_withdrawal] at failed
      exact blameless failure failed
  | stop purpose stopping =>
      intro failure failed
      rw [failure?_of_stopping stepped] at failed
      exact blameless failure failed
  | withdrawAll purpose =>
      cases stepped
      cases purpose <;>
        exact blameless
  | reportClaim claim =>
      cases claim <;>
        cases stepped <;>
          exact Job.blameless_of_none rfl
  | _ =>
      simp only [step] at stepped
      (repeat' split at stepped) <;>
        cases stepped <;>
          first
            | exact blameless
            | exact Job.blameless_of_none rfl
            | exact Job.blameless_of_some rfl trivial

end Blueprint

namespace Scene

variable
  {blueprint : Blueprint σ ρ}
  {scene : Scene σ ρ}

/-- However a host with valid settings is used, nothing fails because of them. -/
theorem Reachable.blameless
    (valid : blueprint.settings.isValid = true)
    (reachable : Reachable blueprint scene) :
    ∀ errand ∈ scene.errands, errand.job.Blameless := by
  refine
    reachable.eachErrand (fun errand => errand.job.Blameless) ?_
      (Job.blameless_of_none rfl) ?_
  · intro request
    cases request <;>
      exact Job.blameless_of_none rfl
  · intro scene errand turn _ _ stepped blameless
    exact Blueprint.blameless_of_step valid stepped blameless

end Scene

end PluggableHost.Lifecycle
