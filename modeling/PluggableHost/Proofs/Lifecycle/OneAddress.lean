import PluggableHost.Proofs.Lifecycle.Blame
import PluggableHost.Proofs.Lifecycle.Bookkeeping
import PluggableHost.Proofs.Lifecycle.Listeners

namespace PluggableHost

open PluggableHost.Config PluggableHost.Net PluggableHost.Observability
open PluggableHost.Registry

/-!
# What is validated, bound and published is one address

Validation, the listeners and the registrar all read the same setting, each in its
own way.  For valid settings they come to the same address: listeners are bound to
the host that the setting means, and so is what is published, up to a wildcard, in
whose place an address of its family is published.
-/

namespace Registry

/-- A probe finds addresses of the family that it is asked about. -/
def KeepsFamily (probe : IpAddress → Option IpAddress) : Prop :=
  ∀ wildcard address,
    probe wildcard = some address → address.isV6 = wildcard.isV6

/-- The host under which a bound host is published. -/
structure PublishedFor (bound published : IpAddress) : Prop where
  concrete : bound.isUnspecified = false → published = bound
  wildcard :
    bound.isUnspecified = true →
      published.isUnspecified = false ∧ published.isV6 = bound.isV6

/-- The loopback of a family is a specified address. -/
theorem isUnspecified_familyLoopback (address : IpAddress) :
    address.familyLoopback.isUnspecified = false := by
  cases address with
  | v4 _ =>
      show (IpAddress.v4 .loopback).isUnspecified = false
      decide
  | v6 _ =>
      show (IpAddress.v6 .loopback).isUnspecified = false
      decide

/-- The loopback of an address is of its family. -/
theorem isV6_familyLoopback (address : IpAddress) :
    address.familyLoopback.isV6 = address.isV6 := by
  cases address <;> rfl

/-- What a probe that keeps the family finds is an address the bind address is published as. -/
theorem publishedFor_reachableAddress
    {probe : IpAddress → Option IpAddress}
    {ip : String}
    {host : IpAddress}
    (keeps : KeepsFamily probe)
    (meant : IpAddress.parse? ip = some host) :
    PublishedFor host (Registrar.reachableAddress probe ip).1 := by
  unfold Registrar.reachableAddress
  dsimp only
  rw [meant]
  cases unspecified : host.isUnspecified with
  | false =>
      simp only [Option.filter_some, unspecified, Bool.not_false, ↓reduceIte]
      exact
        { concrete := fun _ => rfl
          wildcard := fun other => by rw [unspecified] at other; cases other }
  | true =>
      simp only [Option.filter_some, unspecified, Bool.not_true,
        Bool.false_eq_true, ↓reduceIte, Option.getD_some]
      refine
        { concrete := fun other => by rw [unspecified] at other; cases other
          wildcard := fun _ => ?_ }
      split
      · next address found =>
          obtain ⟨probed, routable⟩ := Option.filter_eq_some_iff.mp found
          exact ⟨by simpa using routable, keeps host address probed⟩
      · exact ⟨isUnspecified_familyLoopback host, isV6_familyLoopback host⟩

namespace Registrar

variable
  {ρ : Type}
  {settings : Settings}

/-- Every endpoint is for an enabled protocol, on the host and on the port of its listener. -/
theorem socket_of_mem_endpointsFor
    {host : IpAddress}
    {endpoint : Endpoint}
    (member : endpoint ∈ endpointsFor settings host) :
    settings.enables endpoint.protocol = true ∧
      endpoint.socket = wantedAddress settings host endpoint.protocol := by
  obtain ⟨protocol, enabled, rfl⟩ := List.mem_map.mp member
  exact ⟨Settings.mem_enabledProtocols.mp enabled, rfl⟩

/-- Publishing the endpoints of the settings keeps each of them, in order. -/
theorem toList_published (settings : Settings) (host : IpAddress) :
    ((endpointsFor settings host).foldl Published.add {}).toList =
      endpointsFor settings host := by
  cases plain : settings.enableHttp <;>
    cases tls : settings.enableHttps <;>
      simp [endpointsFor, Settings.enabledProtocols, Settings.enables, plain,
        tls, Published.add, Published.toList]

/-- A registration offers the endpoints in their order, all of them if it succeeds. -/
theorem offers_register
    (client : Option (RegistryClient ρ))
    (probe : IpAddress → Option IpAddress)
    (settings : Settings)
    (registrar : Registrar ρ) :
    let step := registrar.register client probe settings
    let endpoints :=
      endpointsFor settings (reachableAddress probe settings.ip).1
    offers step.journal <+: endpoints ∧
      ∀ published,
        step.value = .ok published →
          published.toList = endpoints ∧ offers step.journal = endpoints := by
  intro step endpoints
  cases client with
  | none =>
      exact ⟨List.nil_prefix, fun _ succeeded => by cases succeeded⟩
  | some client =>
      have publishing := publishAll_spec client registrar endpoints
      have probed : offers (reachableAddress probe settings.ip).2 = [] :=
        (nothing_of_spares
          (Lifecycle.spares_reachableAddress probe settings.ip)).1
      have journal :
          step.journal =
            (reachableAddress probe settings.ip).2 ++
              (registrar.publishAll client endpoints).journal := by
        simp only [step, register]
        split <;> rfl
      have offered :
          offers step.journal =
            client.asked registrar.registry endpoints := by
        rw [journal, offers_append, probed, List.nil_append,
          publishing.offered]
      rw [offered]
      refine ⟨client.asked_prefix _ _, fun published succeeded => ?_⟩
      simp only [step, register] at succeeded
      split at succeeded
      · cases succeeded
      · next complete =>
          cases succeeded
          exact ⟨toList_published _ _,
            RegistryClient.asked_of_accepted (publishing.complete complete)⟩

end Registrar

end Registry

namespace Lifecycle

open PluggableHost.Plugin

variable {σ ρ : Type}

namespace Scene

variable
  {blueprint : Blueprint σ ρ}
  {scene : Scene σ ρ}

/-- The listeners that a start opens are bound to the address that the settings ask for. -/
theorem Reachable.address_of_opened
    (dependable : blueprint.settings.Dependable)
    {bound : IpAddress}
    (meant : IpAddress.parse? blueprint.settings.ip = some bound)
    (reachable : Reachable blueprint scene) :
    ∀ listener ∈ scene.opened,
      listener.address =
        wantedAddress blueprint.settings bound listener.protocol := by
  intro listener member
  obtain ⟨deed, done, held⟩ := List.mem_flatMap.mp member
  obtain ⟨past, present⟩ := reachable.past done
  obtain ⟨actor, request, job, before, turn⟩ := deed
  cases job with
  | listen service hasContext =>
      have held : listener ∈ turn.next.holding := held
      cases Blueprint.handling_of_step present.stepped with
      | idle listening network empty nothing unready own cleared =>
          rw [Job.holding_of_not_handles nothing] at held
          cases held
      | opens opened network listening next =>
          rw [next] at held
          exact address_of_openListeners_ok meant dependable.port opened
            listener held
      | fails network listening next =>
          rw [next] at held
          cases held
  | _ =>
      cases held

/-- Listeners of a host are bound to the address that the settings ask for. -/
theorem Reachable.address_of_listener
    (dependable : blueprint.settings.Dependable)
    {bound : IpAddress}
    (meant : IpAddress.parse? blueprint.settings.ip = some bound)
    (reachable : Reachable blueprint scene) :
    ∀ listener ∈ scene.host.listeners,
      listener.address =
        wantedAddress blueprint.settings bound listener.protocol := by
  intro listener member
  refine reachable.address_of_opened dependable meant listener ?_
  have conserved := reachable.conserved listener
  have present := List.count_pos_iff.mpr member
  exact List.count_pos_iff.mp (by omega)

/-- Whatever the registry is asked to publish is an endpoint of the settings. -/
theorem Reachable.mem_endpoints_of_offered
    (reachable : Reachable blueprint scene) :
    ∀ endpoint ∈ offers scene.journal, endpoint ∈ blueprint.endpoints := by
  intro endpoint offered
  obtain ⟨entry, written, isOffer⟩ := List.mem_filterMap.mp offered
  obtain ⟨deed, done, written⟩ := List.mem_flatMap.mp written
  obtain ⟨past, present⟩ := reachable.past done
  have errand := List.mem_of_getElem? present.errand
  have writes :=
    Blueprint.writes_of_step present.stepped
      (present.reachable.governed.inPlace errand)
  have asked : endpoint ∈ blueprint.called deed.job.offering := by
    rw [← writes.offered]
    exact List.mem_filterMap.mpr ⟨entry, written, isOffer⟩
  have books := present.reachable.balanced.jobs _ errand
  unfold Blueprint.called at asked
  split at asked
  · obtain ⟨rest, job⟩ : ∃ rest, deed.job = .offer (endpoint :: rest) := by
      unfold Job.offering at asked
      split at asked
      · next first rest job =>
          rw [List.mem_singleton.mp asked]
          exact ⟨rest, job⟩
      · cases asked
    rw [job] at books
    have offering : (past.ledger blueprint).Offering blueprint.endpoints _ :=
      books
    rw [← offering.accepted]
    exact List.mem_append_right _ List.mem_cons_self
  · cases asked

end Scene

/-- Validation, the listeners and the registrar come to one address. -/
structure OneAddress
    (blueprint : Blueprint σ ρ)
    (host : IpAddress) : Prop where
  meant : IpAddress.parse? blueprint.settings.ip = some host
  read :
    ∀ protocol,
      SocketAddress.parse? (blueprint.settings.listenAddress protocol) =
        some (wantedAddress blueprint.settings host protocol)
  bound :
    ∀ wish network protocol socket,
      blueprint.settings.enables protocol = true →
      (bind wish (blueprint.settings.listenAddress protocol)
          network).outcome = .ok socket →
      socket.address = wantedAddress blueprint.settings host protocol
  /-- Where nothing is bound, the machine has refused that address. -/
  refused :
    ∀ wish network protocol failure,
      blueprint.settings.enables protocol = true →
      (bind wish (blueprint.settings.listenAddress protocol)
          network).outcome = .error failure →
      ∃ cause,
        failure =
            .bind (blueprint.settings.listenAddress protocol) cause ∧
          network.rules.Refuses wish
            (wantedAddress blueprint.settings host protocol) cause
  apart :
    (blueprint.settings.enabledProtocols.map
      blueprint.settings.port).Nodup
  version : (Tls.checkVersion blueprint.settings).outcome = .ok ()
  /-- One registration publishes endpoints on one host, with the ports that are bound. -/
  registered :
    ∀ (client : Option (RegistryClient ρ)) (registrar : Registrar ρ),
      let step :=
        registrar.register client blueprint.probe blueprint.settings
      ∃ published,
        PublishedFor host published ∧
          (∀ endpoint ∈ offers step.journal,
            blueprint.settings.enables endpoint.protocol = true ∧
              endpoint.socket =
                wantedAddress blueprint.settings published
                  endpoint.protocol) ∧
          ∀ result,
            step.value = .ok result →
            result.toList = offers step.journal ∧
              result.toList.map Endpoint.protocol =
                blueprint.settings.enabledProtocols
  /-- An address that is no wildcard is published as it is bound. -/
  agree :
    host.isUnspecified = false →
    ∀ (client : Option (RegistryClient ρ)) (registrar : Registrar ρ),
      let step :=
        registrar.register client blueprint.probe blueprint.settings
      ∀ endpoint ∈ offers step.journal, ∀ wish network socket,
        (bind wish (blueprint.settings.listenAddress endpoint.protocol)
            network).outcome = .ok socket →
        endpoint.socket = socket.address
  listening :
    ∀ scene,
      Scene.Reachable blueprint scene →
      ∀ listener ∈ scene.host.listeners,
        listener.address =
          wantedAddress blueprint.settings host listener.protocol
  published :
    ∃ published,
      PublishedFor host published ∧
        ∀ scene,
          Scene.Reachable blueprint scene →
          ∀ endpoint ∈ offers scene.journal,
            blueprint.settings.enables endpoint.protocol = true ∧
              endpoint.socket =
                wantedAddress blueprint.settings published
                  endpoint.protocol
  blameless :
    ∀ scene,
      Scene.Reachable blueprint scene →
      ∀ errand ∈ scene.errands, ∀ problems,
        errand.job ≠ .done (.error (.configuration problems))

/-- For valid settings, what is validated, bound and published is one address. -/
theorem oneAddress_of_isValid
    (blueprint : Blueprint σ ρ)
    (valid : blueprint.settings.isValid = true)
    (keeps : KeepsFamily blueprint.probe) :
    ∃ host, OneAddress blueprint host := by
  have dependable := dependable_of_isValid valid
  obtain ⟨host, meant⟩ := dependable.address
  have publishedFor :
      PublishedFor host
        (Registrar.reachableAddress blueprint.probe
          blueprint.settings.ip).1 :=
    publishedFor_reachableAddress keeps meant
  have bound
      (wish : SocketSettings)
      (network : Network)
      (protocol : Protocol)
      (socket : Socket)
      (enabled : blueprint.settings.enables protocol = true)
      (opened :
        (bind wish (blueprint.settings.listenAddress protocol)
            network).outcome = .ok socket) :
      socket.address = wantedAddress blueprint.settings host protocol :=
    address_of_bind_ok (parse?_listenAddress meant protocol)
      (dependable.port protocol enabled) opened
  have offered
      (client : Option (RegistryClient ρ))
      (registrar : Registrar ρ) :=
    Registrar.offers_register client blueprint.probe blueprint.settings
      registrar
  refine ⟨host, {
    meant
    read := parse?_listenAddress meant
    bound
    refused := ?_
    apart := dependable.nodup_ports
    version := Tls.checkVersion_ok_iff.mpr dependable.version
    registered := ?_
    agree := ?_
    listening := fun scene reachable =>
      reachable.address_of_listener dependable meant
    published := ⟨_, publishedFor, ?_⟩
    blameless := ?_ }⟩
  · intro wish network protocol failure enabled failed
    exact refuses_of_bind_error (parse?_listenAddress meant protocol)
      (dependable.port protocol enabled) failed
  · intro client registrar step
    obtain ⟨part, complete⟩ := offered client registrar
    refine ⟨_, publishedFor, ?_, ?_⟩
    · intro endpoint member
      exact Registrar.socket_of_mem_endpointsFor (part.subset member)
    · intro result succeeded
      obtain ⟨listed, all⟩ := complete result succeeded
      rw [listed]
      exact ⟨all.symm, Registrar.protocol_endpointsFor _ _⟩
  · intro concrete client registrar step endpoint member wish network socket
      opened
    have part := (offered client registrar).1
    obtain ⟨enabled, same⟩ :=
      Registrar.socket_of_mem_endpointsFor (part.subset member)
    rw [same, publishedFor.concrete concrete]
    exact (bound wish network endpoint.protocol socket enabled opened).symm
  · intro scene reachable endpoint member
    exact Registrar.socket_of_mem_endpointsFor
      (reachable.mem_endpoints_of_offered endpoint member)
  · intro scene reachable errand member problems done
    refine reachable.blameless valid errand member
      (.configuration problems) ?_
    rw [done]
    rfl

/-- A host on every address of both families, reached under one of its own. -/
def openToAll : Blueprint Unit Directory where
  settings :=
    { enableHttps := true, ip := "::", enableRegistry := true
      serviceId := "ledger" }
  plugins := ({} : Plugins Unit Directory).provide .keepEndpoints Directory.registry
  material := .memory []
  probe
    | .v4 _ => none
    | .v6 _ => some (.v6 ⟨#v[0x2001, 0xdb8, 0, 0, 0, 0, 0, 7]⟩)

/-- A host open to all on both protocols parses, binds and publishes one address. -/
theorem oneAddress_openToAll :
    openToAll.settings.isValid = true ∧
      KeepsFamily openToAll.probe ∧
      ∃ host, OneAddress openToAll host := by
  have valid : openToAll.settings.isValid = true := by
    decide +kernel
  have keeps : KeepsFamily openToAll.probe := by
    intro wildcard address found
    cases wildcard with
    | v4 _ =>
        cases found
    | v6 _ =>
        cases found
        rfl
  exact ⟨valid, keeps, oneAddress_of_isValid openToAll valid keeps⟩

end Lifecycle

end PluggableHost
