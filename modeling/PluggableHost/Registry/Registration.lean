import PluggableHost.Config.Settings
import PluggableHost.Error
import PluggableHost.Observability.Journal
import PluggableHost.Registry.SwitchBoard

namespace PluggableHost.Registry

open PluggableHost.Config PluggableHost.Net PluggableHost.Observability

/-!
# Registration of a host's endpoints

A registrar publishes one endpoint for each enabled protocol, keeps a list of
what it has published, and withdraws an endpoint only after taking it off that
list. Each step below is atomic: one call of the registry, or one change of the
list. Whole operations are sequences of steps, so that what holds of every
sequence of steps holds of operations that overlap.
-/

/-- What a registrar remembers, together with the registry and the switches it works on. -/
structure Registrar (ρ : Type) where
  /-- The published endpoints, in order of registration. -/
  tracked : List Endpoint := []
  /-- Whether some registration has come to its end. -/
  hasRegistered : Bool := false
  registry : ρ
  switches : SwitchBoard := {}

/-- The endpoints that one registration published. -/
structure Published where
  plain : Option Endpoint := none
  tls : Option Endpoint := none
  deriving Repr, DecidableEq

namespace Published

/-- The published endpoints, the one in the clear first. -/
def toList (published : Published) : List Endpoint :=
  published.plain.toList ++ published.tls.toList

/-- Note the endpoint of a protocol. -/
def add (published : Published) (endpoint : Endpoint) : Published :=
  match endpoint.protocol with
  | .plain => { published with plain := some endpoint }
  | .tls => { published with tls := some endpoint }

end Published

/-- An event of the registration. -/
def registrationEvent (level : Level) (message : String)
    (fields : List (String × FieldValue) := []) : Entry :=
  .log level .registration message fields

/-- What one atomic step of a registrar leads to. -/
structure Step (ρ α : Type) where
  value : α
  registrar : Registrar ρ
  journal : List Entry

namespace Registrar

variable {ρ : Type}

/-- Offer an endpoint to the registry. -/
def offer (client : RegistryClient ρ) (endpoint : Endpoint) (registrar : Registrar ρ) :
    Step ρ (Except Refusal Unit) :=
  let (answer, registry) := client.register registrar.registry endpoint
  let refused :=
    match answer with
    | .ok () => []
    | .error refusal =>
        [registrationEvent .error "Failed to register endpoint"
          [("endpoint", .text endpoint.text), ("error", .text refusal.message)]]
  { value := answer
    registrar := { registrar with registry }
    journal := Entry.call (.register endpoint) :: refused }

/-- Put an accepted endpoint on the list. -/
def track (endpoint : Endpoint) (registrar : Registrar ρ) : Step ρ Unit :=
  let tracked := registrar.tracked ++ [endpoint]
  { value := ()
    registrar := { registrar with tracked }
    journal :=
      [.metric (.registeredEndpoints tracked.length),
        registrationEvent .info "Registered service endpoint"
          [("endpoint", .text endpoint.text)]] }

/-- Take one copy of an endpoint off the list, and say whether there was one. -/
def untrack (endpoint : Endpoint) (registrar : Registrar ρ) : Step ρ Bool :=
  if registrar.tracked.contains endpoint then
    let tracked := registrar.tracked.erase endpoint
    { value := true
      registrar := { registrar with tracked }
      journal := [.metric (.registeredEndpoints tracked.length)] }
  else
    { value := false
      registrar
      journal :=
        [registrationEvent .debug "Endpoint not registered, skipping"
          [("endpoint", .text endpoint.text)]] }

/-- Tell the registry that an endpoint is gone. A refusal changes nothing here. -/
def withdraw (client : RegistryClient ρ) (endpoint : Endpoint) (registrar : Registrar ρ) :
    Step ρ Unit :=
  let (answer, registry) := client.unregister registrar.registry endpoint
  let told :=
    match answer with
    | .ok () =>
        registrationEvent .info "Unregistered service endpoint"
          [("endpoint", .text endpoint.text)]
    | .error refusal =>
        registrationEvent .warn "Failed to unregister endpoint"
          [("endpoint", .text endpoint.text), ("error", .text refusal.message)]
  { value := ()
    registrar := { registrar with registry }
    journal := [.call (.unregister endpoint), told] }

/-- Publish one endpoint: offer it, and track it when it is accepted. -/
def publish (client : RegistryClient ρ) (endpoint : Endpoint) (registrar : Registrar ρ) :
    Step ρ (Except HostError Unit) :=
  let offered := registrar.offer client endpoint
  match offered.value with
  | .error refusal => { offered with value := .error (.registry refusal) }
  | .ok () =>
      let tracked := offered.registrar.track endpoint
      { value := .ok ()
        registrar := tracked.registrar
        journal := offered.journal ++ tracked.journal }

/-- Publish endpoints in order until one is refused. -/
def publishAll (client : RegistryClient ρ) (registrar : Registrar ρ) :
    List Endpoint → Step ρ (Except HostError Unit)
  | [] => ⟨.ok (), registrar, []⟩
  | endpoint :: rest =>
      let first := registrar.publish client endpoint
      match first.value with
      | .error _ => first
      | .ok () =>
          let others := publishAll client first.registrar rest
          { others with journal := first.journal ++ others.journal }

/-- The endpoints that a host with these settings publishes. -/
def endpointsFor (settings : Settings) (host : IpAddress) : List Endpoint :=
  settings.enabledProtocols.map fun protocol =>
    { protocol, host, port := settings.port protocol, serviceId := settings.serviceId }

/--
The address under which other hosts reach this one: the address that is bound,
or for a wildcard the address found by `probe`, or else the loopback address of
the wildcard's family.
-/
def reachableAddress (probe : IpAddress → Option IpAddress) (ip : String) :
    IpAddress × List Entry :=
  let parsed := IpAddress.parse? ip
  match parsed.filter fun address => !address.isUnspecified with
  | some address => (address, [])
  | none =>
      let wildcard := parsed.getD (.v4 .unspecified)
      match (probe wildcard).filter fun address => !address.isUnspecified with
      | some address => (address, [])
      | none =>
          (wildcard.familyLoopback,
            [registrationEvent .debug
              "No routable interface found, publishing loopback address"
              [("loopback", .text wildcard.familyLoopback.text)]])

/-- Note that a registration has come to its end. -/
def markRegistered (registrar : Registrar ρ) : Registrar ρ :=
  { registrar with hasRegistered := true }

/-- The report that there is no registry to publish in. -/
def missingRegistry (settings : Settings) : Entry :=
  registrationEvent .error "Could not find registry instance in service locator"
    [("service_id", .text settings.serviceId)]

/-- Publish one endpoint for each enabled protocol. -/
def register (client : Option (RegistryClient ρ)) (probe : IpAddress → Option IpAddress)
    (settings : Settings) (registrar : Registrar ρ) :
    Step ρ (Except HostError Published) :=
  match client with
  | none =>
      { value := .error .registryUnavailable, registrar, journal := [missingRegistry settings] }
  | some client =>
      let (host, probed) := reachableAddress probe settings.ip
      let endpoints := endpointsFor settings host
      let published := registrar.publishAll client endpoints
      let journal := probed ++ published.journal
      match published.value with
      | .error failure => ⟨.error failure, published.registrar, journal⟩
      | .ok () =>
          ⟨.ok (endpoints.foldl Published.add {}), published.registrar.markRegistered, journal⟩

/-- Withdraw one endpoint if it is tracked, and say whether it was. -/
def unregisterOne (client : Option (RegistryClient ρ)) (endpoint : Endpoint)
    (registrar : Registrar ρ) : Step ρ Bool :=
  let untracked := registrar.untrack endpoint
  match untracked.value, client with
  | true, some client =>
      let withdrawn := untracked.registrar.withdraw client endpoint
      { value := true
        registrar := withdrawn.registrar
        journal := untracked.journal ++ withdrawn.journal }
  | _, _ => untracked

/-- Withdraw those of the endpoints that are tracked, and count them. -/
def unregister (client : Option (RegistryClient ρ)) (registrar : Registrar ρ) :
    List Endpoint → Step ρ Nat
  | [] => ⟨0, registrar, []⟩
  | endpoint :: rest =>
      let first := registrar.unregisterOne client endpoint
      let others := unregister client first.registrar rest
      { value := (if first.value then 1 else 0) + others.value
        registrar := others.registrar
        journal := first.journal ++ others.journal }

/-- Withdraw everything that is tracked. -/
def unregisterAll (client : Option (RegistryClient ρ)) (registrar : Registrar ρ) : Step ρ Nat :=
  registrar.unregister client registrar.tracked

/-- Turn the heartbeat on, unless nothing has ever been registered. -/
def activateHeartbeat (registrar : Registrar ρ) : Step ρ Bool :=
  if registrar.hasRegistered then
    { value := true
      registrar := { registrar with switches := registrar.switches.set heartbeat true }
      journal := [registrationEvent .info "Registry heart beat switcher is on"] }
  else
    { value := false
      registrar
      journal :=
        [registrationEvent .warn "Heartbeat not activated: endpoints are not registered"] }

/-- Turn the heartbeat off if it is on. -/
def deactivateHeartbeat (registrar : Registrar ρ) : Step ρ Unit :=
  if registrar.switches.isOn heartbeat then
    { value := ()
      registrar := { registrar with switches := registrar.switches.set heartbeat false }
      journal := [registrationEvent .info "Registry heart beat switcher is off"] }
  else
    ⟨(), registrar, []⟩

end Registrar

end PluggableHost.Registry
