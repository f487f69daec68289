import PluggableHost.Proofs.Observability.Writing
import PluggableHost.Registry.Registration

namespace PluggableHost.Registry

open PluggableHost.Observability

/-!
# The single steps of a registrar

What each step leaves on the list of tracked endpoints, and which calls of the
registry its journal tells of.
-/

variable {ρ α : Type}

/-- A step leaves this on the list, and tells of these calls, no hook and no new state. -/
structure Telling
    (step : Step ρ α)
    (tracked offered withdrawn : List Endpoint) : Prop where
  tracked : step.registrar.tracked = tracked
  offered : offers step.journal = offered
  withdrawn : withdrawals step.journal = withdrawn
  hookless : hooksRun step.journal = []
  silent : transitions step.journal = []

namespace Registrar

/-- Offering an endpoint tells the registry of it and tracks nothing yet. -/
theorem telling_offer
    (client : RegistryClient ρ)
    (endpoint : Endpoint)
    (registrar : Registrar ρ) :
    Telling (registrar.offer client endpoint)
      registrar.tracked [endpoint] [] := by
  rcases answered : client.register registrar.registry endpoint with
    ⟨refusal | accepted, registry⟩ <;>
    constructor <;>
      simp [offer, answered, registrationEvent]

/-- Tracking an endpoint tells the registry nothing. -/
theorem telling_track
    (endpoint : Endpoint)
    (registrar : Registrar ρ) :
    Telling (registrar.track endpoint)
      (registrar.tracked ++ [endpoint]) [] [] := by
  constructor <;>
    simp [track, registrationEvent]

/-- An endpoint that is not on the list is not taken off. -/
theorem telling_untrack
    (endpoint : Endpoint)
    (registrar : Registrar ρ) :
    Telling (registrar.untrack endpoint)
      (registrar.tracked.erase endpoint) [] [] := by
  by_cases listed : registrar.tracked.contains endpoint = true
  · constructor <;>
      simp only [untrack, listed, ↓reduceIte] <;>
        simp
  · have absent : endpoint ∉ registrar.tracked := by
      simpa using listed
    constructor <;>
      simp [untrack, absent, registrationEvent, List.erase_of_not_mem]

/-- Withdrawing an endpoint tells the registry and leaves what is tracked. -/
theorem telling_withdraw
    (client : RegistryClient ρ)
    (endpoint : Endpoint)
    (registrar : Registrar ρ) :
    Telling (registrar.withdraw client endpoint)
      registrar.tracked [] [endpoint] := by
  rcases answered : client.unregister registrar.registry endpoint with
    ⟨refusal | accepted, registry⟩ <;>
    constructor <;>
      simp [withdraw, answered, registrationEvent]

/-- Turning the heartbeat on tells the registry nothing. -/
theorem telling_activateHeartbeat
    (registrar : Registrar ρ) :
    Telling registrar.activateHeartbeat registrar.tracked [] [] := by
  cases registered : registrar.hasRegistered <;>
    constructor <;>
      simp [activateHeartbeat, registered, registrationEvent]

/-- Turning the heartbeat off tells the registry nothing. -/
theorem telling_deactivateHeartbeat
    (registrar : Registrar ρ) :
    Telling registrar.deactivateHeartbeat registrar.tracked [] [] := by
  cases lit : registrar.switches.isOn heartbeat <;>
    constructor <;>
      simp [deactivateHeartbeat, lit, registrationEvent]

end Registrar

end PluggableHost.Registry
