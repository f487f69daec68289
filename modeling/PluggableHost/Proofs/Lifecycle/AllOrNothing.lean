import PluggableHost.Proofs.Lifecycle.Scene
import PluggableHost.Proofs.Lifecycle.Sparing
import PluggableHost.Proofs.Lifecycle.Stages
import PluggableHost.Proofs.Net.Requests
import PluggableHost.Proofs.Registry.Publication
import PluggableHost.Registry.Refusing

namespace PluggableHost.Lifecycle

open PluggableHost.Config PluggableHost.Http PluggableHost.Net
open PluggableHost.Observability PluggableHost.Plugin PluggableHost.Registry

/-!
# A start is all or nothing

The stages of a start touch the registry and the network in one place each.  So
a start that one of them ends leaves no socket open and withdraws exactly what
the registry had accepted, and a start that none of them ends has published and
opened everything.
-/

variable {σ ρ : Type}

namespace Blueprint

variable
  {blueprint : Blueprint σ ρ}
  {host : Host σ ρ}

/-- Calls of the registry, if there is one and some of the stages calls it. -/
def whenRegistering
    (blueprint : Blueprint σ ρ)
    (performed : List Stage)
    (calls : RegistryClient ρ → List Endpoint) : List Endpoint :=
  match blueprint.client with
  | none => []
  | some client =>
      if .registration ∈ performed then calls client else []

/-- The endpoints that the registry accepts in the course of some stages. -/
def accepted
    (blueprint : Blueprint σ ρ)
    (registry : ρ)
    (performed : List Stage) : List Endpoint :=
  blueprint.whenRegistering performed fun client =>
    client.accepted registry blueprint.endpoints

/-- The endpoints that the registry is asked for in the course of some stages. -/
def asked
    (blueprint : Blueprint σ ρ)
    (registry : ρ)
    (performed : List Stage) : List Endpoint :=
  blueprint.whenRegistering performed fun client =>
    client.asked registry blueprint.endpoints

/-- The names of the startup hooks that run in the course of some stages. -/
def invited
    (blueprint : Blueprint σ ρ)
    (performed : List Stage) : List String :=
  if .hooks ∈ performed then
    hooksRun (runStartupHooks blueprint.startupHooks).journal
  else []

/-- What stages that were performed have done to a host. -/
structure Performed
    (blueprint : Blueprint σ ρ)
    (host : Host σ ρ)
    (performed : List Stage)
    (attempt : Attempt σ ρ) : Prop where
  state : attempt.host.state = host.state
  pending : attempt.host.shutdownPending = host.shutdownPending
  switches : attempt.host.registrar.switches = host.registrar.switches
  registry :
    .registration ∉ performed →
      attempt.host.registrar = host.registrar
  network :
    .opening ∉ performed →
      attempt.host.network = host.network ∧
        attempt.host.listening = host.listening
  tracked :
    attempt.host.registrar.tracked =
      host.registrar.tracked ++
        blueprint.accepted host.registrar.registry performed
  offered :
    offers attempt.journal =
      blueprint.asked host.registrar.registry performed
  withdrawn : withdrawals attempt.journal = []
  hooked : hooksRun attempt.journal = blueprint.invited performed

/-- Where nothing is registered, no endpoint is concerned. -/
theorem whenRegistering_of_not_mem
    {performed : List Stage}
    {calls : RegistryClient ρ → List Endpoint}
    (absent : .registration ∉ performed) :
    blueprint.whenRegistering performed calls = [] := by
  unfold whenRegistering
  split
  · rfl
  · exact if_neg absent

/-- Stages that both register or both do not concern the same endpoints. -/
theorem whenRegistering_congr
    {performed others : List Stage}
    {calls : RegistryClient ρ → List Endpoint}
    (same : .registration ∈ performed ↔ .registration ∈ others) :
    blueprint.whenRegistering performed calls =
      blueprint.whenRegistering others calls := by
  simp only [whenRegistering, same]

/-- Stages performed one after the other, of which none is performed twice. -/
theorem Performed.trans
    {early late : List Stage}
    {first second : Attempt σ ρ}
    (before : blueprint.Performed host early first)
    (after : blueprint.Performed first.host late second)
    (disjoint : ∀ stage ∈ early, stage ∉ late) :
    blueprint.Performed host (early ++ late)
      { second with journal := first.journal ++ second.journal } := by
  have apart := disjoint .registration
  have calls (called : RegistryClient ρ → ρ → List Endpoint) :
      blueprint.whenRegistering early
            (called · host.registrar.registry) ++
          blueprint.whenRegistering late
            (called · first.host.registrar.registry) =
        blueprint.whenRegistering (early ++ late)
          (called · host.registrar.registry) := by
    by_cases publishes : .registration ∈ early
    · rw [whenRegistering_of_not_mem (apart publishes),
        List.append_nil]
      exact whenRegistering_congr (by simp [publishes])
    · rw [whenRegistering_of_not_mem publishes,
        before.registry publishes]
      exact whenRegistering_congr (by simp [publishes])
  refine
    { state := after.state.trans before.state
      pending := after.pending.trans before.pending
      switches := after.switches.trans before.switches
      registry := ?_
      network := ?_
      tracked := ?_
      offered := ?_
      withdrawn := ?_
      hooked := ?_ }
  · intro absent
    simp only [List.mem_append, not_or] at absent
    exact (after.registry absent.2).trans (before.registry absent.1)
  · intro absent
    simp only [List.mem_append, not_or] at absent
    obtain ⟨network, listening⟩ := before.network absent.1
    obtain ⟨laterNetwork, laterListening⟩ := after.network absent.2
    exact ⟨laterNetwork.trans network, laterListening.trans listening⟩
  · rw [after.tracked, before.tracked, List.append_assoc]
    exact congrArg (host.registrar.tracked ++ ·)
      (calls fun client registry =>
        client.accepted registry blueprint.endpoints)
  · rw [offers_append, before.offered, after.offered]
    exact calls fun client registry =>
      client.asked registry blueprint.endpoints
  · rw [withdrawals_append, before.withdrawn, after.withdrawn]
    rfl
  · rw [hooksRun_append, before.hooked, after.hooked]
    unfold invited
    by_cases early : Stage.hooks ∈ early
    · simp [early, disjoint _ early]
    · simp [early]

/-- What stages come to when a start of a host goes through them. -/
def upTo
    (blueprint : Blueprint σ ρ)
    (host : Host σ ρ)
    (stages : List Stage) : Attempt σ ρ :=
  blueprint.bringUp (blueprint.setOff host).host stages

/-- A start that failed at one of its stages and has been taken back. -/
structure Undone
    (blueprint : Blueprint σ ρ)
    (host : Host σ ρ)
    (earlier : List Stage)
    (stage : Stage)
    (failure : HostError)
    (turn : Turn σ ρ) : Prop where
  inOrder : earlier ++ [stage] <+: blueprint.stages
  passed : (blueprint.upTo host earlier).outcome = .ok ()
  failed :
    (blueprint.perform (blueprint.upTo host earlier).host
      stage).outcome = .error failure
  /-- Listeners are not opened only if the machine refuses something, or an address is none. -/
  denied :
    stage = .opening →
      Denied host.network.rules blueprint.settings true
        host.network.sockets host.network.opened
        blueprint.settings.enabledProtocols failure
  returned : turn.next = .done (.error failure)
  journal :
    turn.journal =
      (blueprint.setOff host).journal ++
        (blueprint.upTo host earlier).journal ++
        (blueprint.perform
          (blueprint.upTo host earlier).host stage).journal ++
        (blueprint.rollBack
          (blueprint.perform (blueprint.upTo host earlier).host
            stage).host failure).journal
  stopped : turn.host.state = .stopped
  listening : turn.host.listening = none
  sockets : turn.host.network.sockets = host.network.sockets
  tracked : turn.host.registrar.tracked = []
  switches : turn.host.registrar.switches = host.registrar.switches
  offered : offers turn.journal <+: blueprint.endpoints
  withdrawn :
    withdrawals turn.journal =
      blueprint.accepted host.registrar.registry (earlier ++ [stage])
  once : (withdrawals turn.journal).Nodup
  hooked :
    hooksRun turn.journal <+: blueprint.startupHooks.map Hook.name
  /-- What comes after the startup hooks comes after all of them. -/
  hookedBefore :
    .hooks ∈ earlier →
      hooksRun turn.journal = blueprint.startupHooks.map Hook.name
  /-- No hook runs before the settings were found to be valid. -/
  hookless :
    .hooks ∉ earlier ++ [stage] → hooksRun turn.journal = []

/--
A host on both protocols, whose startup hook fails and whose registry refuses
the endpoint on the TLS port.
-/
def halfPublished : Blueprint Unit Unit where
  settings :=
    { enableHttps := true, enableRegistry := true, serviceId := "ledger" }
  plugins :=
    (({} : Plugins Unit Unit).provide .runAtStartup
      { name := "warm", outcome := .fails (.recoverable "cold") }).provide
        .keepEndpoints
          (Refusals.registry { onRegister := [8443], reason := "full" })
  material := .memory []

/-- A machine on which no socket is open. -/
def untouched : Surroundings Unit where
  registry := ()
  network :=
    { rules := .standard
      handle_lt := fun _ member => absurd member List.not_mem_nil }

end Blueprint

end PluggableHost.Lifecycle
