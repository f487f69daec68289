import PluggableHost.Lifecycle.Step
import PluggableHost.Proofs.Net.Binding
import PluggableHost.Proofs.Observability.Complaint
import PluggableHost.Proofs.Tls.Making

namespace PluggableHost.Lifecycle

open PluggableHost.Config PluggableHost.Http PluggableHost.Net
open PluggableHost.Observability PluggableHost.Os PluggableHost.Plugin
open PluggableHost.Registry PluggableHost.Tls

/-!
# What the parts of a host complain of

Assembling the chain, making a TLS context and opening listeners complain once when
they fail, and the complaint says what has failed.  Everything else that a host
does, with its hooks and with the registry in particular, is complained of only
where a start is given up for it.
-/

variable
  {σ ρ α : Type}

/-! ## The chain -/

/-- Asking the providers is not complained of. -/
theorem complaints_askProviders
    (providers : List (Provider σ)) :
    complaints (askProviders providers).2 = [] := by
  induction providers with
  | nil =>
      rfl
  | cons provider rest inductionHypothesis =>
      unfold askProviders
      split
      · rfl
      · exact inductionHypothesis

/-- Asking the middleware is not complained of. -/
theorem complaints_askMiddleware
    (middleware : List (Middleware σ)) :
    complaints (askMiddleware middleware) = [] := by
  refine complaints_eq_nil_iff.mpr fun entry member => ?_
  obtain ⟨link, -, written⟩ := List.mem_flatMap.mp member
  simp only [List.mem_cons, List.not_mem_nil, or_false] at written
  rcases written with rfl | rfl <;>
    rfl

/-- Calls are not complaints. -/
theorem complaints_calls
    {links : List (Middleware σ)}
    (call : Middleware σ → PluginCall) :
    complaints (links.map fun link => .call (call link)) = [] := by
  refine complaints_eq_nil_iff.mpr fun entry member => ?_
  obtain ⟨link, -, rfl⟩ := List.mem_map.mp member
  rfl

/-- The complaint that none of so many providers has a handler. -/
def noHandlerAmong (providers : Nat) : Entry :=
  chainEvent .error
    "Unable to start the server - no route handler provider available"
    [("providers", .number providers)]

/-- An assembly fails for lack of a handler only, and that is complained of. -/
theorem complains_assemble
    (providers : List (Provider σ))
    (middleware : List (Middleware σ)) :
    (assemble providers middleware).Complains fun failure complained =>
      failure = .noRouteHandler ∧
        complained = [noHandlerAmong providers.length] := by
  have resolving :
      (resolveRoot providers).Complains fun failure complained =>
        failure = .noRouteHandler ∧
          complained = [noHandlerAmong providers.length] := by
    refine Recorded.complains_bind
      (Recorded.complains_notes (complaints_askProviders providers))
      fun _ => ?_
    split
    · exact Recorded.complains_pure _
    · exact complainsOf_error ⟨rfl, rfl⟩
  refine Recorded.complains_bind resolving fun _ => ?_
  refine Recorded.complains_bind (Recorded.complains_note rfl) fun _ => ?_
  refine Recorded.complains_bind
    (Recorded.complains_notes (complaints_askMiddleware _)) fun _ => ?_
  refine Recorded.complains_bind
    (Recorded.complains_notes (complaints_calls _)) fun _ => ?_
  refine Recorded.complains_bind
    (Recorded.complains_notes (complaints_calls _)) fun _ => ?_
  exact Recorded.complains_pure _

/-! ## The TLS context -/

/-- Whatever is looked for, a source of material has no complaints of its own. -/
def KeepsCalm (source : MaterialSource) : Prop :=
  ∀ name, complaints (source name).journal = []

/-- A source in memory keeps calm. -/
theorem keepsCalm_memory
    (pieces : List (String × Bytes)) :
    KeepsCalm (.memory pieces) := by
  intro name
  simp only [MaterialSource.memory]
  split <;>
    rfl

/-- A source of files keeps calm. -/
theorem keepsCalm_files
    (tree : FileTree)
    (directories : List String) :
    KeepsCalm (.files tree directories) := by
  intro name
  simp only [MaterialSource.files]
  split
  · rfl
  · split <;>
      rfl

/-- The complaint about a piece of material. -/
def unusable (resource reason : String) : Entry :=
  tlsEvent .error "Unable to create TLS context"
    [("resource", .text resource),
      ("error", .text (HostError.keyMaterial resource reason).message)]

/-- A failure with a piece of material, and the complaint about this piece. -/
def BlamesMaterial
    (failure : HostError)
    (complained : List Entry) : Prop :=
  ∃ resource reason,
    failure = .keyMaterial resource reason ∧
      complained = [unusable resource reason]

section Material

variable
  {acceptance : Acceptance}
  {settings : Settings}
  {source : MaterialSource}

/-- A failure with a piece of material is complained of. -/
theorem complains_failWith
    (resource reason : String) :
    (failWith resource reason : Recorded HostError α).Complains
      BlamesMaterial :=
  complainsOf_error ⟨resource, reason, rfl, rfl⟩

/-- A step with a piece of material that fails is complained of. -/
theorem complains_orFail
    (resource : String)
    (outcome : Except String α) :
    (orFail resource outcome).Complains BlamesMaterial := by
  cases outcome with
  | ok value =>
      exact Recorded.complains_pure value
  | error reason =>
      exact complains_failWith resource reason

/-- Material that cannot be loaded is complained of. -/
theorem complains_readMaterial
    (calm : KeepsCalm source)
    (name : String) :
    (readMaterial source name).Complains BlamesMaterial := by
  unfold readMaterial
  dsimp only
  split
  · exact Recorded.complains_bind (Recorded.complains_notes (calm name))
      fun _ => Recorded.complains_pure _
  · exact Recorded.complains_bind (Recorded.complains_notes (calm name))
      fun _ => complains_failWith name _

/-- Certificates that cannot be read are complained of. -/
theorem complains_readCertificates
    (acceptance : Acceptance)
    (name : String)
    (file : Bytes) :
    (readCertificates acceptance name file).Complains BlamesMaterial := by
  refine Recorded.complains_bind (complains_orFail name _) fun _ => ?_
  dsimp only
  split
  · exact complains_failWith name _
  · exact Recorded.complains_pure _

/-- A key that cannot be read is complained of. -/
theorem complains_readKey
    (acceptance : Acceptance)
    (name : String)
    (file : Bytes)
    (password : Option String) :
    (readKey acceptance name file password).Complains BlamesMaterial := by
  unfold readKey
  split
  · split
    · exact complains_failWith name _
    · exact complains_orFail name _
  · refine Recorded.complains_bind (complains_orFail name _) fun _ => ?_
    split
    · exact complains_failWith name _
    · split
      · exact complains_failWith name _
      · exact Recorded.complains_pure _

/-- A root that is refused is complained of. -/
theorem complains_addRoots
    (acceptance : Acceptance)
    (name : String)
    (certificates : List Bytes) :
    (addRoots acceptance name certificates).Complains BlamesMaterial := by
  induction certificates with
  | nil =>
      exact Recorded.complains_pure ()
  | cons certificate rest inductionHypothesis =>
      exact Recorded.complains_bind (complains_orFail name _) fun _ =>
        inductionHypothesis

/-- Roots that cannot be read are complained of. -/
theorem complains_readRoots
    (calm : KeepsCalm source) :
    (readRoots acceptance settings source).Complains BlamesMaterial := by
  refine Recorded.complains_bind
    (complains_readMaterial calm _) fun file => ?_
  have others :
      (readCertificates acceptance settings.truststoreName file >>=
          fun roots =>
            addRoots acceptance settings.truststoreName roots >>=
              fun _ => (Pure.pure roots : Recorded HostError _)).Complains
        BlamesMaterial :=
    Recorded.complains_bind (complains_readCertificates _ _ _) fun _ =>
      Recorded.complains_bind (complains_addRoots _ _ _) fun _ =>
        Recorded.complains_pure _
  split
  · exact Recorded.complains_bind (Recorded.complains_note rfl) fun _ =>
      others
  · exact others

/-- A version that is not supported is complained of by nobody, but validation stops it. -/
theorem complains_checkVersion
    (supported :
      ∀ version,
        settings.tlsProtocol = some version → version ∈ tlsVersions) :
    (checkVersion settings).Complains BlamesMaterial := by
  unfold checkVersion
  split
  · exact Recorded.complains_pure ()
  · next version asked =>
      have offered : tlsVersions.contains version = true := by
        simpa using supported version asked
      rw [if_pos offered]
      exact Recorded.complains_pure ()

/-- Certificates that do not go with the key are complained of. -/
theorem complains_conclude
    (clientAuth : ClientAuth)
    (certificates : List Bytes)
    (key : PrivateKey)
    (roots : List Bytes) :
    (conclude acceptance settings clientAuth certificates key
      roots).Complains BlamesMaterial :=
  Recorded.complains_bind (complains_orFail _ _) fun _ =>
    Recorded.complains_bind (Recorded.complains_note rfl) fun _ =>
      Recorded.complains_pure _

/-- A keystore that cannot be used is complained of. -/
theorem complains_withKeystore
    {next : List Bytes → PrivateKey → Recorded HostError Context}
    (calm : KeepsCalm source)
    (nextComplains :
      ∀ certificates key,
        (next certificates key).Complains BlamesMaterial) :
    (withKeystore acceptance settings source next).Complains
      BlamesMaterial :=
  Recorded.complains_bind (complains_readMaterial calm _) fun _ =>
    Recorded.complains_bind (complains_readCertificates _ _ _) fun _ =>
      Recorded.complains_bind (complains_readKey _ _ _ _) fun _ =>
        nextComplains _ _

/-- A context that cannot be made is complained of. -/
theorem complains_build
    (dependable : settings.Dependable)
    (calm : KeepsCalm source) :
    (Context.build acceptance settings source).Complains
      BlamesMaterial := by
  have version := complains_checkVersion dependable.version
  cases twoWay : settings.enableTwoWayTls with
  | true =>
      rw [build_of_twoWay twoWay]
      refine complains_withKeystore calm fun certificates key => ?_
      exact Recorded.complains_bind (complains_readRoots calm) fun roots =>
        Recorded.complains_bind version fun _ =>
          complains_conclude _ _ _ _
  | false =>
      rw [build_of_oneWay twoWay]
      refine complains_withKeystore calm fun certificates key => ?_
      exact Recorded.complains_bind version fun _ =>
        Recorded.complains_bind (Recorded.complains_note rfl) fun _ =>
          complains_conclude _ _ _ _

end Material

/-! ## The listeners -/

/-- A machine always tells the address of a socket that is bound. -/
def TellsAddresses (rules : SocketRules) : Prop :=
  ∀ wish address sockets,
    rules.refusal? .readAddress wish address sockets = none

/-- The standard rules refuse nothing in silence. -/
theorem tellsAddresses_standard : TellsAddresses .standard :=
  fun _ _ _ => rfl

/-- The complaint about an address. -/
def unbindable (address : String) (cause : Failure) : Entry :=
  listenerEvent .error "Unable to bind listener"
    [("address", .text address), ("error", .text cause.message)]

/-- A failure to listen at an address, and the complaint about this address. -/
def BlamesAddress
    (address : String)
    (failure : HostError)
    (complained : List Entry) : Prop :=
  ∃ cause,
    failure = .bind address cause ∧
      complained = [unbindable address cause]

section Listeners

variable
  {hasContext : Bool}
  {network : Network}

/-- A socket that cannot listen is complained of. -/
theorem complains_bind
    (wish : SocketSettings)
    (address : String)
    (network : Network) :
    ComplainsOf (BlamesAddress address)
      (Net.bind wish address network).outcome
      (Net.bind wish address network).journal := by
  unfold Net.bind
  split
  · exact complainsOf_error ⟨_, rfl, rfl⟩
  · split
    · exact complainsOf_error ⟨_, rfl, rfl⟩
    · exact complainsOf_ok _ rfl

/-- A failure to read the address of a socket would be complained of by nobody. -/
theorem complains_bindListener
    (settings : Settings)
    (tells : TellsAddresses network.rules)
    (protocol : Protocol) :
    ComplainsOf (BlamesAddress (settings.listenAddress protocol))
      (bindListener settings network protocol).outcome
      (bindListener settings network protocol).journal := by
  have complains :=
    complains_bind (.ofSettings settings)
      (settings.listenAddress protocol) network
  unfold bindListener
  dsimp only
  split
  · next failure failed =>
      exact complainsOf_error (complains.failed failure failed)
  · next socket succeeded =>
      split
      · next cause refused =>
          rw [rules_bind, tells] at refused
          cases refused
      · exact complainsOf_ok _ (complains.calm socket succeeded)

/-- Listeners that cannot be bound are complained of by the address of one. -/
theorem complains_bindAll
    (settings : Settings)
    (tells : TellsAddresses network.rules)
    (protocols : List Protocol)
    (secured : .tls ∈ protocols → hasContext = true) :
    ComplainsOf
      (fun failure complained =>
        ∃ protocol ∈ protocols,
          BlamesAddress (settings.listenAddress protocol) failure
            complained)
      (bindAll settings hasContext network protocols).outcome
      (bindAll settings hasContext network protocols).journal := by
  induction protocols generalizing network with
  | nil =>
      exact complainsOf_ok [] rfl
  | cons protocol rest inductionHypothesis =>
      have guarded : ¬ (protocol = .tls && !hasContext) = true := by
        intro lacking
        obtain ⟨rfl, contextless⟩ : protocol = .tls ∧ hasContext = false := by
          simpa using lacking
        rw [secured List.mem_cons_self] at contextless
        cases contextless
      rw [bindAll_cons, if_neg guarded]
      have complains :=
        complains_bindListener settings tells protocol
      have told :
          TellsAddresses
            (bindListener settings network protocol).network.rules := by
        rwa [rules_bindListener]
      have later :=
        inductionHypothesis told fun member =>
          secured (List.mem_cons_of_mem _ member)
      cases first :
          (bindListener settings network protocol).outcome with
      | error failure =>
          simp only [first]
          exact complainsOf_error
            ⟨protocol, List.mem_cons_self, complains.failed failure first⟩
      | ok listener =>
          have quiet := complains.calm listener first
          cases others :
              (bindAll settings hasContext
                (bindListener settings network protocol).network
                rest).outcome with
          | error failure =>
              simp only [first, others]
              obtain ⟨other, member, blames⟩ :=
                later.failed failure others
              refine complainsOf_error
                ⟨other, List.mem_cons_of_mem _ member, ?_⟩
              rw [complaints_append, quiet]
              exact blames
          | ok listeners =>
              simp only [first, others]
              refine complainsOf_ok _ ?_
              rw [complaints_append, quiet, later.calm listeners others]
              rfl

/-- Nobody complains of listeners that serve. -/
theorem complaints_beganServing
    (settings : Settings)
    (listeners : List Listener) :
    complaints (beganServing settings listeners) = [] := by
  have started :
      complaints
        (listeners.map fun listener =>
          listenerEvent .info listener.title
            [("ip", .text settings.ip),
              ("port", .number listener.address.port.toNat)]) = [] := by
    refine complaints_eq_nil_iff.mpr fun entry member => ?_
    obtain ⟨listener, -, rfl⟩ := List.mem_map.mp member
    rfl
  rw [beganServing, complaints_append, complaints_append, started]
  split <;>
    rfl

/-- Listeners that cannot be opened are complained of by the address of one. -/
theorem complains_openListeners
    (settings : Settings)
    (tells : TellsAddresses network.rules)
    (secured : settings.enableHttps = true → hasContext = true) :
    ComplainsOf
      (fun failure complained =>
        ∃ protocol,
          settings.enables protocol = true ∧
            BlamesAddress (settings.listenAddress protocol) failure
              complained)
      (openListeners settings hasContext network).outcome
      (openListeners settings hasContext network).journal := by
  have complains :=
    complains_bindAll settings tells settings.enabledProtocols
      fun member => secured (Settings.mem_enabledProtocols.mp member)
  unfold openListeners
  dsimp only
  split
  · next failure failed =>
      rw [failed]
      obtain ⟨protocol, member, blames⟩ := complains.failed failure failed
      exact complainsOf_error
        ⟨protocol, Settings.mem_enabledProtocols.mp member, blames⟩
  · next listeners bound =>
      refine complainsOf_ok _ ?_
      rw [complaints_append, complains.calm listeners bound,
        complaints_beganServing]
      rfl

end Listeners

/-! ## The registry -/

/-- The complaint about an endpoint that the registry refuses. -/
def refusedEndpoint (endpoint : Endpoint) (refusal : Refusal) : Entry :=
  registrationEvent .error "Failed to register endpoint"
    [("endpoint", .text endpoint.text), ("error", .text refusal.message)]

/-- An endpoint that the registry refuses is complained of. -/
theorem complains_offer
    (client : RegistryClient ρ)
    (endpoint : Endpoint)
    (registrar : Registrar ρ) :
    ComplainsOf
      (fun refusal complained =>
        complained = [refusedEndpoint endpoint refusal])
      (registrar.offer client endpoint).value
      (registrar.offer client endpoint).journal := by
  rcases answered : client.register registrar.registry endpoint with
    ⟨refusal | accepted, registry⟩
  · simp only [Registrar.offer, answered]
    exact complainsOf_error rfl
  · simp only [Registrar.offer, answered]
    exact complainsOf_ok _ rfl

/-- A listener that has come to its end in a fault is only warned of. -/
theorem complaints_farewell
    (rules : SocketRules)
    (listener : Listener) :
    complaints (listener.farewell rules) = [] := by
  unfold Listener.farewell
  rcases rules.fault? listener.handle with _ | _ | _ <;>
    rfl

/-- A registry that refuses to withdraw is not complained of. -/
theorem complaints_withdraw
    (client : RegistryClient ρ)
    (endpoint : Endpoint)
    (registrar : Registrar ρ) :
    complaints (registrar.withdraw client endpoint).journal = [] := by
  rcases answered : client.unregister registrar.registry endpoint with
    ⟨refusal | accepted, registry⟩ <;>
    simp only [Registrar.withdraw, answered] <;>
      rfl

/-- Taking an endpoint off the list is not complained of. -/
theorem complaints_untrack
    (endpoint : Endpoint)
    (registrar : Registrar ρ) :
    complaints (registrar.untrack endpoint).journal = [] := by
  unfold Registrar.untrack
  split <;>
    rfl

/-- Turning the heartbeat on is not complained of. -/
theorem complaints_activateHeartbeat
    (registrar : Registrar ρ) :
    complaints registrar.activateHeartbeat.journal = [] := by
  unfold Registrar.activateHeartbeat
  split <;>
    rfl

/-- Turning the heartbeat off is not complained of. -/
theorem complaints_deactivateHeartbeat
    (registrar : Registrar ρ) :
    complaints registrar.deactivateHeartbeat.journal = [] := by
  unfold Registrar.deactivateHeartbeat
  split <;>
    rfl

/-- An address that cannot be reached from elsewhere is not complained of. -/
theorem complaints_reachableAddress
    (probe : IpAddress → Option IpAddress)
    (ip : String) :
    complaints (Registrar.reachableAddress probe ip).2 = [] := by
  unfold Registrar.reachableAddress
  dsimp only
  split
  · rfl
  · split <;>
      rfl

/-! ## The hooks -/

/-- The complaint about a hook that ends a start. -/
def fatalHook (hook : Hook) (reason : String) : Entry :=
  hook.event .error "Startup hook aborted startup" [("reason", .text reason)]

/-- A startup hook that may fail is complained of when it ends the start. -/
theorem complaints_startupReport
    (hook : Hook) :
    complaints hook.startupReport =
      match hook.outcome with
      | .fails (.fatal reason) => [fatalHook hook reason]
      | _ => [] := by
  obtain ⟨name, actions, outcome⟩ := hook
  rcases outcome with _ | ⟨_ | _⟩ | _ <;>
    rfl

/-- No shutdown hook is complained of. -/
theorem complaints_shutdownReport
    (hook : Hook) :
    complaints hook.shutdownReport = [] := by
  obtain ⟨name, actions, outcome⟩ := hook
  rcases outcome with _ | ⟨_ | _⟩ | _ <;>
    rfl

/-- What hooks do with their host is not complained of. -/
theorem complaints_act
    (host : Host σ ρ)
    (hook : Hook)
    (action : HookAction)
    (next : Job σ) :
    complaints (Blueprint.act host hook action next).journal = [] := by
  cases action with
  | shutdown =>
      unfold Blueprint.act
      obtain ⟨claim, claimed⟩ := host.claimShutdown
      cases claim <;>
        rfl
  | _ =>
      rfl

/-! ## The rest -/

/-- A posture is not complained of. -/
theorem complaints_ofSettings?
    {settings : Settings}
    {posture : Posture}
    {journal : List Entry}
    (composed :
      Posture.ofSettings? settings = some (posture, journal)) :
    complaints journal = [] := by
  unfold Posture.ofSettings? at composed
  dsimp only at composed
  split at composed
  · cases composed
  · simp only [Option.some.injEq, Prod.mk.injEq] at composed
    rw [← composed.2]
    unfold serverHeader
    split <;>
      rfl

/-- Requests for a shutdown are not complained of, however they are met. -/
theorem complaints_report
    (claim : Claim) :
    complaints claim.report = [] := by
  cases claim <;>
    rfl

end PluggableHost.Lifecycle
