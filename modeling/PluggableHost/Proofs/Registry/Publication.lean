import Mathlib.Data.List.Nodup
import PluggableHost.Proofs.Observability.Writing
import PluggableHost.Registry.Registration

namespace PluggableHost.Registry

open PluggableHost.Config PluggableHost.Net PluggableHost.Observability

/-!
# Publishing and withdrawing endpoints

A registry is asked for one endpoint after the other, up to the first that it
refuses, and what it accepted is tracked in that order.  Withdrawing all that
is tracked asks the registry once for every tracked endpoint, in the order of
registration, whatever the registry answers.
-/

variable {ρ : Type}

namespace RegistryClient

/--
The endpoints that a registry accepts when they are offered in order, up to the
first that it refuses.
-/
def accepted
    (client : RegistryClient ρ)
    (registry : ρ) :
    List Endpoint → List Endpoint
  | [] => []
  | endpoint :: rest =>
      match client.register registry endpoint with
      | (.error _, _) => []
      | (.ok (), later) => endpoint :: accepted client later rest

/-- The endpoints that a registry is asked for: the accepted ones, and the refused one. -/
def asked
    (client : RegistryClient ρ)
    (registry : ρ) :
    List Endpoint → List Endpoint
  | [] => []
  | endpoint :: rest =>
      match client.register registry endpoint with
      | (.error _, _) => [endpoint]
      | (.ok (), later) => endpoint :: asked client later rest

/-- The registry is asked in the order of the endpoints. -/
theorem asked_prefix
    (client : RegistryClient ρ)
    (registry : ρ)
    (endpoints : List Endpoint) :
    client.asked registry endpoints <+: endpoints := by
  induction endpoints generalizing registry with
  | nil =>
      exact List.prefix_rfl
  | cons endpoint rest inductionHypothesis =>
      unfold asked
      split
      · exact List.cons_prefix_cons.mpr ⟨rfl, List.nil_prefix⟩
      · exact List.cons_prefix_cons.mpr
          ⟨rfl, inductionHypothesis _⟩

/-- Where all is accepted, nothing else was asked for. -/
theorem asked_of_accepted
    {client : RegistryClient ρ}
    {registry : ρ}
    {endpoints : List Endpoint}
    (complete : client.accepted registry endpoints = endpoints) :
    client.asked registry endpoints = endpoints := by
  induction endpoints generalizing registry with
  | nil =>
      rfl
  | cons endpoint rest inductionHypothesis =>
      unfold accepted at complete
      unfold asked
      split at complete
      · simp at complete
      · simp only [List.cons.injEq, true_and] at complete ⊢
        exact inductionHypothesis complete

end RegistryClient

/-- What publishing endpoints in order leads to. -/
structure Publishing
    (client : RegistryClient ρ)
    (before : Registrar ρ)
    (endpoints : List Endpoint)
    (step : Step ρ (Except HostError Unit)) : Prop where
  tracked :
    step.registrar.tracked =
      before.tracked ++ client.accepted before.registry endpoints
  switches : step.registrar.switches = before.switches
  complete :
    step.value = .ok () →
      client.accepted before.registry endpoints = endpoints
  offered : offers step.journal = client.asked before.registry endpoints
  withdrawn : withdrawals step.journal = []
  hookless : hooksRun step.journal = []

/-- What withdrawing endpoints in order leads to. -/
structure Withdrawing
    (before : Registrar ρ)
    (endpoints rest : List Endpoint)
    (step : Step ρ Nat) : Prop where
  tracked : step.registrar.tracked = rest
  switches : step.registrar.switches = before.switches
  offered : offers step.journal = []
  withdrawn : withdrawals step.journal = endpoints
  hookless : hooksRun step.journal = []

namespace Registrar

/-- A registration publishes one endpoint for each enabled protocol. -/
theorem protocol_endpointsFor
    (settings : Settings)
    (host : IpAddress) :
    (endpointsFor settings host).map Endpoint.protocol =
      settings.enabledProtocols := by
  rw [endpointsFor, List.map_map]
  exact List.map_id _

/-- No endpoint of the settings is published twice. -/
theorem nodup_endpointsFor
    (settings : Settings)
    (host : IpAddress) :
    (endpointsFor settings host).Nodup := by
  apply List.Nodup.of_map Endpoint.protocol
  rw [protocol_endpointsFor]
  exact List.Nodup.filter _ (by decide)

/-- An endpoint that is accepted is tracked. -/
theorem publish_of_accepted
    {client : RegistryClient ρ}
    {registrar : Registrar ρ}
    {endpoint : Endpoint}
    {registry : ρ}
    (answered :
      client.register registrar.registry endpoint = (.ok (), registry)) :
    registrar.publish client endpoint =
      { value := .ok ()
        registrar :=
          { registrar with
            tracked := registrar.tracked ++ [endpoint]
            registry }
        journal :=
          [.call (.register endpoint),
            .metric
              (.registeredEndpoints
                (registrar.tracked ++ [endpoint]).length),
            registrationEvent .info "Registered service endpoint"
              [("endpoint", .text endpoint.text)]] } := by
  simp [publish, offer, track, answered]

/-- An endpoint that is refused is not tracked. -/
theorem publish_of_refused
    {client : RegistryClient ρ}
    {registrar : Registrar ρ}
    {endpoint : Endpoint}
    {registry : ρ}
    {refusal : Refusal}
    (answered :
      client.register registrar.registry endpoint =
        (.error refusal, registry)) :
    registrar.publish client endpoint =
      { value := .error (.registry refusal)
        registrar := { registrar with registry }
        journal :=
          [.call (.register endpoint),
            registrationEvent .error "Failed to register endpoint"
              [("endpoint", .text endpoint.text),
                ("error", .text refusal.message)]] } := by
  simp [publish, offer, answered]

/-- Publishing tracks what the registry accepts, and succeeds when that is all. -/
theorem publishAll_spec
    (client : RegistryClient ρ)
    (registrar : Registrar ρ)
    (endpoints : List Endpoint) :
    Publishing client registrar endpoints
      (publishAll client registrar endpoints) := by
  induction endpoints generalizing registrar with
  | nil =>
      constructor <;>
        simp [publishAll, RegistryClient.accepted, RegistryClient.asked]
  | cons endpoint rest inductionHypothesis =>
      rcases answered : client.register registrar.registry endpoint with
        ⟨refusal | accepted, registry⟩
      · constructor <;>
          simp [publishAll, publish_of_refused answered, answered,
            RegistryClient.accepted, RegistryClient.asked,
            registrationEvent]
      · have others :=
          inductionHypothesis
            { registrar with
              tracked := registrar.tracked ++ [endpoint]
              registry }
        constructor
        · simp [publishAll, publish_of_accepted answered, answered,
            RegistryClient.accepted, others.tracked]
        · simp [publishAll, publish_of_accepted answered,
            others.switches]
        · intro succeeded
          simp only [publishAll, publish_of_accepted answered]
            at succeeded
          simp [RegistryClient.accepted, answered,
            others.complete succeeded]
        · simp [publishAll, publish_of_accepted answered, answered,
            RegistryClient.asked, others.offered, registrationEvent]
        · simp [publishAll, publish_of_accepted answered,
            others.withdrawn, registrationEvent]
        · simp [publishAll, publish_of_accepted answered,
            others.hookless, registrationEvent]

end Registrar

end PluggableHost.Registry
