import PluggableHost.Proofs.Lifecycle.Blame
import PluggableHost.Proofs.Lifecycle.Complaints
import PluggableHost.Proofs.Lifecycle.Standing

namespace PluggableHost.Lifecycle

open PluggableHost.Config PluggableHost.Http PluggableHost.Net
open PluggableHost.Observability PluggableHost.Plugin PluggableHost.Registry
open PluggableHost.Tls

/-!
# Every step speaks for itself

A step of a job complains of nothing, or it fails and complains of what has failed,
or it tells that the start has failed.  There are ways to fail in silence too, but a
start is never on them: it does not come so far without the settings, the registry
and the TLS context that it needs.
-/

variable
  {σ ρ α : Type}

/-! ## What a start brings along -/

/-- What a job has made sure of before it came so far. -/
def Job.Equipped
    (blueprint : Blueprint σ ρ) : Job σ → Prop
  | .runHooks .startup _ _ | .runHook .startup _ _ _ _
  | .publish | .finishPublishing | .assemble =>
      blueprint.settings.isValid = true
  | .offer _ | .track _ _ =>
      blueprint.settings.isValid = true ∧ blueprint.client.isSome = true
  | .secure _ =>
      blueprint.settings.isValid = true ∧
        blueprint.settings.enableHttps = true
  | .compose _ hasContext | .listen _ hasContext =>
      blueprint.settings.enableHttps = true → hasContext = true
  | _ => True

namespace Blueprint

variable
  {blueprint : Blueprint σ ρ}
  {host : Host σ ρ}
  {job : Job σ}
  {turn : Turn σ ρ}

/-- A withdrawal goes on to a job equipped by the blueprint. -/
theorem equipped_of_withdrawal
    (purpose : Purpose)
    (withdrawal : Withdrawal) :
    (blueprint.withdrawalStep host purpose withdrawal).next.Equipped
      blueprint := by
  cases withdrawal with
  | untrack endpoints =>
      cases endpoints with
      | nil =>
          cases purpose <;>
            trivial
      | cons endpoint rest =>
          trivial
  | tell endpoint rest =>
      unfold withdrawalStep
      dsimp only
      split <;>
        trivial

/-- A stop goes on to a job equipped by the blueprint. -/
theorem equipped_of_stopping
    {purpose : Option Purpose}
    {stopping : Stopping}
    (stepped : stoppingStep host purpose stopping = some turn) :
    turn.next.Equipped blueprint := by
  have after : (Job.afterStop purpose : Job σ).Equipped blueprint := by
    rcases purpose with _ | _ | _ <;>
      trivial
  cases stopping with
  | take =>
      cases stepped
      dsimp only
      split
      · exact after
      · trivial
  | dismiss listeners =>
      cases stepped
      trivial
  | await listeners =>
      cases listeners with
      | nil =>
          cases stepped
          exact after
      | cons listener rest =>
          simp only [stoppingStep] at stepped
          split at stepped <;> cases stepped
          trivial

/-- A job takes along what it needs next. -/
theorem equipped_of_step
    (stepped : blueprint.step host job = some turn)
    (equipped : job.Equipped blueprint) :
    turn.next.Equipped blueprint := by
  cases job with
  | validate =>
      simp only [step] at stepped
      split at stepped <;> cases stepped
      · next valid =>
          exact valid
      · trivial
  | runHooks phase failures hooks =>
      cases hooks with
      | nil =>
          cases stepped
          cases phase with
          | startup =>
              simp only [afterHooks]
              split <;>
                exact equipped
          | shutdown =>
              trivial
      | cons hook rest =>
          cases stepped
          cases phase <;>
            exact equipped
  | runHook phase failures hook actions rest =>
      cases actions with
      | nil =>
          cases stepped
          cases phase with
          | startup =>
              simp only [endHook]
              split
              · trivial
              · exact equipped
          | shutdown =>
              trivial
      | cons action others =>
          cases stepped
          rw [next_act]
          cases phase <;>
            exact equipped
  | publish =>
      cases found : blueprint.client with
      | none =>
          simp only [step, found] at stepped
          cases stepped
          trivial
      | some client =>
          simp only [step, found] at stepped
          cases stepped
          exact ⟨equipped, by rw [found]; rfl⟩
  | offer endpoints =>
      cases endpoints with
      | nil =>
          cases stepped
          exact equipped.1
      | cons endpoint rest =>
          simp only [step] at stepped
          split at stepped <;> cases stepped
          · trivial
          · dsimp only
            split
            · exact equipped
            · trivial
  | track endpoint rest =>
      cases stepped
      exact equipped
  | finishPublishing =>
      cases stepped
      exact equipped
  | assemble =>
      cases stepped
      unfold proceed
      split
      · trivial
      · dsimp only
        split
        · next enabled =>
            exact ⟨equipped, enabled⟩
        · next disabled =>
            exact fun enabled => absurd enabled disabled
  | secure chain =>
      cases stepped
      unfold proceed
      split
      · trivial
      · exact fun _ => rfl
  | compose chain hasContext =>
      simp only [step] at stepped
      split at stepped <;> cases stepped
      · trivial
      · exact equipped
  | withdraw purpose withdrawal =>
      cases stepped
      exact equipped_of_withdrawal purpose withdrawal
  | stop purpose stopping =>
      exact equipped_of_stopping stepped
  | reportClaim claim =>
      cases claim <;>
        cases stepped <;>
          trivial
  | _ =>
      simp only [step] at stepped
      (repeat' split at stepped) <;>
        cases stepped <;>
          trivial

end Blueprint

/-- Whatever is asked of a host, every job is equipped for its next step. -/
theorem Scene.Reachable.equipped
    {blueprint : Blueprint σ ρ}
    {scene : Scene σ ρ}
    (reachable : Reachable blueprint scene) :
    ∀ errand ∈ scene.errands, errand.job.Equipped blueprint := by
  refine
    reachable.eachErrand (fun errand => errand.job.Equipped blueprint) ?_
      trivial ?_
  · intro request
    cases request <;>
      trivial
  · intro scene errand turn _ _ stepped equipped
    exact Blueprint.equipped_of_step stepped equipped

/-! ## What a step says -/

/-- The complaints about invalid settings, one for each problem. -/
def invalidSettings (settings : Settings) : List Entry :=
  settings.problems.map fun problem =>
    startupEvent .error problem.message [("field", .text problem.field)]

/-- The report of invalid settings complains throughout. -/
theorem complaints_invalidSettings
    (settings : Settings) :
    complaints (invalidSettings settings) = invalidSettings settings := by
  refine List.filter_eq_self.mpr fun entry member => ?_
  obtain ⟨problem, -, rfl⟩ := List.mem_map.mp member
  rfl

/-- The complaint that a start has failed, in the words of its failure. -/
def Blueprint.startupFailed
    (blueprint : Blueprint σ ρ)
    (failure : HostError) : Entry :=
  startupEvent .error "Server startup failed"
    [("service_id", .text blueprint.settings.serviceId),
      ("error", .text failure.message)]

/-- A step of a start fails, and its complaints name what has failed. -/
inductive Blueprint.NamesFailure
    (blueprint : Blueprint σ ρ) :
    Job σ → HostError → List Entry → Prop where
  | settings
      (invalid : blueprint.settings.problems ≠ []) :
      NamesFailure blueprint .validate
        (.configuration blueprint.settings.problems)
        (invalidSettings blueprint.settings)
  | hook
      {failures : Nat}
      {hook : Hook}
      {reason : String}
      {rest : List Hook}
      (fatal : hook.outcome = .fails (.fatal reason)) :
      NamesFailure blueprint (.runHook .startup failures hook [] rest)
        (.hook (.fatal reason)) [fatalHook hook reason]
  | registry
      (missing : blueprint.client = none) :
      NamesFailure blueprint .publish .registryUnavailable
        [Registrar.missingRegistry blueprint.settings]
  | endpoint
      {endpoint : Endpoint}
      {rest : List Endpoint}
      (refusal : Refusal) :
      NamesFailure blueprint (.offer (endpoint :: rest))
        (.registry refusal) [refusedEndpoint endpoint refusal]
  | handler :
      NamesFailure blueprint .assemble .noRouteHandler
        [noHandlerAmong blueprint.providers.length]
  | material
      {chain : Chain σ}
      {resource : String}
      (reason : String)
      (used :
        resource = blueprint.settings.keystoreName ∨
          blueprint.settings.enableTwoWayTls = true ∧
            resource = blueprint.settings.truststoreName) :
      NamesFailure blueprint (.secure chain)
        (.keyMaterial resource reason) [unusable resource reason]
  | address
      {service : Handler σ}
      {hasContext : Bool}
      {protocol : Protocol}
      (cause : Os.Failure)
      (enabled : blueprint.settings.enables protocol = true) :
      NamesFailure blueprint (.listen service hasContext)
        (.bind (blueprint.settings.listenAddress protocol) cause)
        [unbindable (blueprint.settings.listenAddress protocol) cause]

/-- The job has failed, and has yet to tell. -/
def Job.isUntold : Job σ → Bool
  | reportFailure _ => true
  | _ => false

/-- Who has not failed has nothing to tell. -/
theorem Job.told_of_unfailed
    {job : Job σ}
    (unfailed : job.failure? = none) :
    job.isUntold = false := by
  cases job with
  | reportFailure failure =>
      cases unfailed
  | _ =>
      rfl

/-- What a step says. -/
inductive Blueprint.Speaks
    (blueprint : Blueprint σ ρ)
    (job : Job σ)
    (turn : Turn σ ρ) : Prop where
  /-- It has nothing to complain of, and leads to no failure but one in the wrong state. -/
  | calm
      (quiet : complaints turn.journal = [])
      (same :
        turn.next.failure? = job.failure? ∨ job.leg = .atGuard)
      (said : turn.next.isUntold = false)
  /-- It names what has failed. -/
  | names
      {failure : HostError}
      (named :
        blueprint.NamesFailure job failure (complaints turn.journal))
      (next : turn.next = .reportFailure failure)
  /-- It tells that the start has failed. -/
  | tells
      {failure : HostError}
      (same : job = .reportFailure failure)
      (written : turn.journal = [blueprint.startupFailed failure])
      (next : turn.next = .withdrawAll (.rollback failure))

namespace Blueprint

variable
  {blueprint : Blueprint σ ρ}
  {host : Host σ ρ}
  {job : Job σ}
  {turn : Turn σ ρ}
  {failure : HostError}
  {complained : List Entry}

namespace NamesFailure

/-- Only a start in charge names what has failed. -/
theorem charged
    (named : blueprint.NamesFailure job failure complained) :
    job.phase? = some .startup := by
  cases named <;>
    rfl

/-- Who names a failure has not failed before. -/
theorem unfailed
    (named : blueprint.NamesFailure job failure complained) :
    job.failure? = none := by
  cases named <;>
    rfl

/-- Who names a failure is withdrawing nothing. -/
theorem telling
    (named : blueprint.NamesFailure job failure complained) :
    job.telling = [] := by
  cases named <;>
    rfl

/-- A step that names its failure complains at least once. -/
theorem ne_nil
    (named : blueprint.NamesFailure job failure complained) :
    complained ≠ [] := by
  cases named with
  | settings invalid =>
      simpa [invalidSettings] using invalid
  | _ =>
      exact List.cons_ne_nil _ _

/-- What names a failure is not what tells that the start has failed. -/
theorem startupFailed_not_mem
    (named : blueprint.NamesFailure job failure complained)
    (other : HostError) :
    blueprint.startupFailed other ∉ complained := by
  cases named with
  | settings invalid =>
      simp [invalidSettings, startupFailed, startupEvent, Entry.log]
  | _ =>
      simp [startupFailed, startupEvent, fatalHook, Hook.event,
        Registrar.missingRegistry, refusedEndpoint, registrationEvent,
        noHandlerAmong, chainEvent, unusable, tlsEvent, unbindable,
        listenerEvent, Entry.log]

end NamesFailure

/-- A part that may fail names its failure, or has nothing to complain of. -/
theorem speaks_of_proceed
    {complaint : HostError → List Entry → Prop}
    {part : Recorded HostError α}
    {next : α → Job σ}
    (complains : part.Complains complaint)
    (names :
      ∀ failure,
        part.outcome = .error failure →
        complaint failure (complaints part.journal) →
          blueprint.NamesFailure job failure (complaints part.journal))
    (unfailed : job.failure? = none)
    (going : ∀ value, (next value).failure? = none) :
    blueprint.Speaks job (proceed host part next) := by
  unfold proceed
  split
  · next failure failed =>
      exact .names
        (names failure failed (complains.failed failure failed)) rfl
  · next value succeeded =>
      refine .calm (complains.calm value succeeded)
        (.inl ((going value).trans unfailed.symm)) ?_
      exact Job.told_of_unfailed (going value)

/-- A step of a withdrawal complains of nothing. -/
theorem speaks_of_withdrawal
    (purpose : Purpose)
    (withdrawal : Withdrawal) :
    blueprint.Speaks (.withdraw purpose withdrawal)
      (blueprint.withdrawalStep host purpose withdrawal) := by
  have same :=
    failure?_of_withdrawal blueprint host purpose withdrawal
  cases withdrawal with
  | untrack endpoints =>
      cases endpoints with
      | nil =>
          refine .calm rfl (.inl same) ?_
          cases purpose <;>
            rfl
      | cons endpoint rest =>
          exact .calm (complaints_untrack endpoint host.registrar)
            (.inl same) rfl
  | tell endpoint rest =>
      cases found : blueprint.client with
      | none =>
          simp only [withdrawalStep, found] at same ⊢
          exact .calm rfl (.inl same) rfl
      | some client =>
          simp only [withdrawalStep, found] at same ⊢
          exact .calm
            (complaints_withdraw client endpoint host.registrar)
            (.inl same) rfl

/-- A step of a stop complains of nothing. -/
theorem speaks_of_stopping
    {purpose : Option Purpose}
    {stopping : Stopping}
    (stepped : stoppingStep host purpose stopping = some turn) :
    blueprint.Speaks (.stop purpose stopping) turn := by
  have same := failure?_of_stopping stepped
  have after : (Job.afterStop purpose : Job σ).isUntold = false := by
    rcases purpose with _ | _ | _ <;>
      rfl
  cases stopping with
  | take =>
      cases stepped
      refine .calm rfl (.inl same) ?_
      dsimp only
      split
      · exact after
      · rfl
  | dismiss listeners =>
      cases stepped
      exact .calm rfl (.inl same) rfl
  | await listeners =>
      cases listeners with
      | nil =>
          cases stepped
          exact .calm rfl (.inl same) after
      | cons listener rest =>
          simp only [stoppingStep] at stepped
          split at stepped <;> cases stepped
          exact .calm (complaints_farewell _ listener) (.inl same) rfl

/-- The end of a hook is complained of only where it ends a start. -/
theorem speaks_of_endHook
    (phase : Phase)
    (failures : Nat)
    (hook : Hook)
    (rest : List Hook) :
    blueprint.Speaks (.runHook phase failures hook [] rest)
      (endHook host phase failures hook rest) := by
  cases phase with
  | shutdown =>
      exact .calm (complaints_shutdownReport hook) (.inl rfl) rfl
  | startup =>
      have reported := complaints_startupReport hook
      cases outcome : hook.outcome with
      | succeeds | breaksDown =>
          rw [outcome] at reported
          simp only [endHook, Hook.abortsWith?, outcome,
            HookOutcome.failure?]
          exact .calm reported (.inl rfl) rfl
      | fails failure =>
          cases failure with
          | recoverable reason =>
              rw [outcome] at reported
              simp only [endHook, Hook.abortsWith?, outcome,
                HookOutcome.failure?]
              exact .calm reported (.inl rfl) rfl
          | fatal reason =>
              rw [outcome] at reported
              simp only [endHook, Hook.abortsWith?, outcome,
                HookOutcome.failure?]
              have named :
                  blueprint.NamesFailure
                    (.runHook .startup failures hook [] rest : Job σ)
                    (.hook (.fatal reason))
                    (complaints hook.startupReport) := by
                rw [reported]
                exact .hook outcome
              exact .names named rfl

/--
Every step of a job speaks for itself, where machines tell addresses.

The steps that cannot fail write fixed events of lower levels, and go on as they were.
-/
theorem speaks_of_step
    (calm : KeepsCalm blueprint.material)
    (tells : TellsAddresses host.network.rules)
    (stepped : blueprint.step host job = some turn)
    (equipped : job.Equipped blueprint) :
    blueprint.Speaks job turn := by
  cases job with
  | validate =>
      simp only [step] at stepped
      split at stepped <;> cases stepped
      · exact .calm rfl (.inl rfl) rfl
      · next invalid =>
          have named :
              blueprint.NamesFailure (.validate : Job σ)
                (.configuration blueprint.settings.problems)
                (complaints (invalidSettings blueprint.settings)) := by
            rw [complaints_invalidSettings]
            exact .settings (by simpa using invalid)
          refine .names ?_ rfl
          dsimp only
          exact named
  | runHooks phase failures hooks =>
      cases hooks with
      | nil =>
          cases stepped
          cases phase with
          | startup =>
              simp only [afterHooks]
              split <;>
                exact .calm rfl (.inl rfl) rfl
          | shutdown =>
              exact .calm rfl (.inl rfl) rfl
      | cons hook rest =>
          cases stepped
          exact .calm rfl (.inl rfl) rfl
  | runHook phase failures hook actions rest =>
      cases actions with
      | nil =>
          cases stepped
          exact speaks_of_endHook phase failures hook rest
      | cons action others =>
          cases stepped
          have next := next_act host hook action
            (.runHook phase failures hook others rest)
          refine .calm (complaints_act host hook action _) (.inl ?_) ?_ <;>
            rw [next] <;>
              rfl
  | publish =>
      cases found : blueprint.client with
      | none =>
          simp only [step, found] at stepped
          cases stepped
          exact .names (.registry found) rfl
      | some client =>
          simp only [step, found] at stepped
          cases stepped
          exact .calm (complaints_reachableAddress _ _) (.inl rfl) rfl
  | offer endpoints =>
      cases endpoints with
      | nil =>
          cases stepped
          exact .calm rfl (.inl rfl) rfl
      | cons endpoint rest =>
          cases found : blueprint.client with
          | none =>
              have present := equipped.2
              rw [found] at present
              cases present
          | some client =>
              have complains :=
                complains_offer client endpoint host.registrar
              simp only [step, found] at stepped
              cases answered :
                  (host.registrar.offer client endpoint).value with
              | ok accepted =>
                  simp only [answered] at stepped
                  cases stepped
                  exact .calm (complains.calm accepted answered) (.inl rfl) rfl
              | error refusal =>
                  simp only [answered] at stepped
                  cases stepped
                  have named :
                      blueprint.NamesFailure
                        (.offer (endpoint :: rest) : Job σ)
                        (.registry refusal)
                        (complaints
                          (host.registrar.offer client endpoint).journal) := by
                    rw [complains.failed refusal answered]
                    exact .endpoint refusal
                  exact .names named rfl
  | assemble =>
      cases stepped
      refine speaks_of_proceed (complains_assemble _ _) ?_ rfl ?_
      · rintro failure - ⟨rfl, complained⟩
        rw [complained]
        exact .handler
      · intro chain
        split <;>
          rfl
  | secure chain =>
      have dependable := dependable_of_isValid equipped.1
      cases stepped
      refine speaks_of_proceed (complains_build dependable calm) ?_ rfl
        fun _ => rfl
      rintro failure failed ⟨resource, reason, rfl, complained⟩
      rw [complained]
      refine .material reason ?_
      cases refused_build _ _ _ _ failed with
      | keystore reason =>
          exact .inl rfl
      | truststore reason twoWay keystore =>
          exact .inr ⟨twoWay, rfl⟩
  | compose chain hasContext =>
      cases composed : Posture.ofSettings? blueprint.settings with
      | none =>
          simp only [step, composed] at stepped
          cases stepped
          exact .calm rfl (.inl rfl) rfl
      | some posture =>
          simp only [step, composed] at stepped
          cases stepped
          exact .calm (complaints_ofSettings? composed) (.inl rfl) rfl
  | listen service hasContext =>
      have complains :=
        complains_openListeners blueprint.settings tells equipped
      cases stepped
      cases opened :
          (openListeners blueprint.settings hasContext
            host.network).outcome with
      | ok listeners =>
          exact .calm (complains.calm listeners opened) (.inl rfl) rfl
      | error failure =>
          obtain ⟨protocol, enabled, cause, rfl, complained⟩ :=
            complains.failed failure opened
          refine .names ?_ rfl
          rw [complained]
          exact .address cause enabled
  | reportFailure failure =>
      cases stepped
      exact .tells rfl rfl rfl
  | withdrawAll purpose =>
      cases stepped
      refine .calm rfl (.inl ?_) rfl
      cases purpose <;>
        rfl
  | withdraw purpose withdrawal =>
      cases stepped
      exact speaks_of_withdrawal purpose withdrawal
  | stop purpose stopping =>
      exact speaks_of_stopping stepped
  | turnHeartbeatOn =>
      cases stepped
      exact .calm (complaints_activateHeartbeat host.registrar) (.inl rfl) rfl
  | turnHeartbeatOff =>
      cases stepped
      exact .calm (complaints_deactivateHeartbeat host.registrar)
        (.inl rfl) rfl
  | reportClaim claim =>
      cases stepped
      refine .calm (complaints_report claim) (.inl ?_) ?_ <;>
        cases claim <;>
          rfl
  | refuseToBegin found =>
      cases stepped
      exact .calm rfl (.inr rfl) rfl
  | _ =>
      simp only [step] at stepped
      (repeat' split at stepped) <;>
        cases stepped <;>
          exact .calm rfl (.inl rfl) rfl

end Blueprint

end PluggableHost.Lifecycle
