import PluggableHost.Proofs.Config.Validity
import PluggableHost.Proofs.Net.Opening
import PluggableHost.Proofs.Net.Spelling

namespace PluggableHost.Net

open PluggableHost.Config PluggableHost.Observability PluggableHost.Os

/-!
# Listeners are bound to the address in the settings

The address that a host writes down for a listener is read again as it was meant.
What is bound is that address, or there is a failure that the machine is the reason
for; a host never stumbles over its own spelling.  Listeners are bound one after the
other, and the first that cannot be bound gives the failure its name.
-/

/-- A machine refuses some operation on the way to a listening socket at an address. -/
def SocketRules.Refuses
    (rules : SocketRules)
    (settings : SocketSettings)
    (wanted : SocketAddress)
    (cause : Failure) : Prop :=
  ∃ operation sockets,
    rules.refusal? operation settings wanted sockets = some cause

/-- The address is the one that is wanted, with the port it was given if it asked for any. -/
def SocketAddress.Meets (wanted address : SocketAddress) : Prop :=
  address = wanted ∨ ∃ free, address = wanted.settled free

namespace SocketAddress.Meets

/-- An address meets itself. -/
theorem refl (wanted : SocketAddress) : wanted.Meets wanted :=
  .inl rfl

/-- Who asks for a port gets that port. -/
theorem eq
    {wanted address : SocketAddress}
    (meets : wanted.Meets address)
    (asked : wanted.port ≠ 0) :
    address = wanted := by
  rcases meets with same | ⟨free, rfl⟩
  · exact same
  · exact if_neg asked

/-- An address that meets what is wanted still does once its port is settled. -/
theorem settled
    {wanted address : SocketAddress}
    (meets : wanted.Meets address)
    (free : UInt16) :
    wanted.Meets (address.settled free) := by
  rcases meets with rfl | ⟨given, rfl⟩
  · exact .inr ⟨free, rfl⟩
  · unfold SocketAddress.settled
    split
    · next portless =>
        split
        · exact .inr ⟨free, by simp [SocketAddress.settled, portless]⟩
        · exact .inr ⟨given, by simp [SocketAddress.settled, portless]⟩
    · exact .refl wanted

/-- Whatever is done with a socket, its address stays the one that is wanted. -/
theorem after
    {wanted : SocketAddress}
    {socket : Socket}
    (meets : wanted.Meets socket.address)
    (free : UInt16)
    (operation : SocketOperation) :
    wanted.Meets (socket.after free operation).address := by
  cases operation with
  | bind =>
      exact meets.settled free
  | _ =>
      exact meets

end SocketAddress.Meets

namespace Network

variable
  {settings : SocketSettings}
  {network : Network}
  {wanted : SocketAddress}

@[simp] theorem rules_close
    (network : Network)
    (handle : Nat) :
    (network.close handle).rules = network.rules := rfl

@[simp] theorem rules_carryOut
    (settings : SocketSettings)
    (socket : Socket)
    (network : Network)
    (operations : List SocketOperation) :
    (network.carryOut settings socket operations).2.rules =
      network.rules := by
  induction operations generalizing network socket with
  | nil =>
      rfl
  | cons operation rest inductionHypothesis =>
      unfold carryOut
      split
      · rfl
      · exact inductionHypothesis _ _

/-- Operations that are all carried out end at an address that meets what is wanted. -/
theorem meets_of_carryOut_ok
    {operations : List SocketOperation}
    {socket last : Socket}
    (meets : wanted.Meets socket.address)
    (carried :
      (network.carryOut settings socket operations).1 = .ok last) :
    wanted.Meets last.address := by
  induction operations generalizing network socket with
  | nil =>
      cases carried
      exact meets
  | cons operation rest inductionHypothesis =>
      unfold carryOut at carried
      split at carried
      · cases carried
      · exact inductionHypothesis (meets.after _ operation) carried

/-- Operations that fail were refused at an address that meets what is wanted. -/
theorem refuses_of_carryOut_error
    {operations : List SocketOperation}
    {socket : Socket}
    {cause : Failure}
    (meets : wanted.Meets socket.address)
    (carried :
      (network.carryOut settings socket operations).1 = .error cause) :
    ∃ sought,
      wanted.Meets sought ∧
        network.rules.Refuses settings sought cause := by
  induction operations generalizing network socket with
  | nil =>
      cases carried
  | cons operation rest inductionHypothesis =>
      unfold carryOut at carried
      split at carried
      · next refused =>
          cases carried
          exact ⟨socket.address, meets, operation, network.sockets, refused⟩
      · have later := inductionHypothesis (meets.after _ operation) carried
        exact later

@[simp] theorem rules_listenOn
    (network : Network)
    (settings : SocketSettings)
    (wanted : SocketAddress) :
    (network.listenOn settings wanted).2.rules = network.rules := by
  unfold listenOn
  split
  · rfl
  · exact rules_carryOut _ _ _ _

/-- A listening socket is at an address that meets what is wanted. -/
theorem meets_of_listenOn_ok
    {socket : Socket}
    (listened : (network.listenOn settings wanted).1 = .ok socket) :
    wanted.Meets socket.address := by
  unfold listenOn at listened
  split at listened
  · cases listened
  · exact meets_of_carryOut_ok (.refl wanted) listened

/-- A socket that cannot listen was refused at an address that meets what is wanted. -/
theorem refuses_of_listenOn_error
    {cause : Failure}
    (listened : (network.listenOn settings wanted).1 = .error cause) :
    ∃ sought,
      wanted.Meets sought ∧
        network.rules.Refuses settings sought cause := by
  unfold listenOn at listened
  split at listened
  · next refused =>
      cases listened
      exact ⟨wanted, .refl wanted, .create, network.sockets, refused⟩
  · have carried := refuses_of_carryOut_error (.refl wanted) listened
    exact carried

end Network

/-- The socket address that settings ask for, given the host that their address means. -/
def wantedAddress
    (settings : Settings)
    (host : IpAddress)
    (protocol : Protocol) : SocketAddress :=
  { host, port := settings.port protocol }

/-- The address of a listener is read as it is written down. -/
theorem parse?_listenAddress
    {settings : Settings}
    {host : IpAddress}
    (meant : IpAddress.parse? settings.ip = some host)
    (protocol : Protocol) :
    SocketAddress.parse? (settings.listenAddress protocol) =
      some (wantedAddress settings host protocol) := by
  delta Settings.listenAddress Settings.addressText
  rw [meant]
  exact SocketAddress.parse?_text fun _ => rfl

section Bind

variable
  {wish : SocketSettings}
  {address : String}
  {wanted : SocketAddress}
  {network : Network}

@[simp] theorem rules_bind
    (wish : SocketSettings)
    (address : String)
    (network : Network) :
    (bind wish address network).network.rules = network.rules := by
  unfold bind
  split
  · rfl
  · next wanted read =>
      have kept := network.rules_listenOn wish wanted
      split <;>
        next listened =>
          rw [listened] at kept
          exact kept

/-- A reason not to listen at an address: it is none, or the machine refuses an operation. -/
inductive Unbindable
    (rules : SocketRules)
    (wish : SocketSettings)
    (address : String) : Failure → Prop where
  | unread
      (unread : SocketAddress.parse? address = none) :
      Unbindable rules wish address .addressSyntax
  | refused
      {wanted sought : SocketAddress}
      {cause : Failure}
      (read : SocketAddress.parse? address = some wanted)
      (meets : wanted.Meets sought)
      (refuses : rules.Refuses wish sought cause) :
      Unbindable rules wish address cause

/-- The machine is the reason not to listen at an address that asks for its port. -/
theorem Unbindable.refuses
    {rules : SocketRules}
    {cause : Failure}
    (unbindable : Unbindable rules wish address cause)
    (read : SocketAddress.parse? address = some wanted)
    (asked : wanted.port ≠ 0) :
    rules.Refuses wish wanted cause := by
  cases unbindable with
  | unread unread =>
      rw [read] at unread
      cases unread
  | refused known meets refuses =>
      obtain rfl := Option.some.inj (read.symm.trans known)
      exact meets.eq asked ▸ refuses

/-- What is bound is at an address that meets the one the text says. -/
theorem meets_of_bind_ok
    {socket : Socket}
    (bound : (bind wish address network).outcome = .ok socket) :
    ∃ wanted,
      SocketAddress.parse? address = some wanted ∧
        wanted.Meets socket.address := by
  unfold bind at bound
  split at bound
  · cases bound
  · next wanted read =>
      split at bound
      · cases bound
      · next listened =>
          cases bound
          exact ⟨wanted, read,
            Network.meets_of_listenOn_ok (congrArg Prod.fst listened)⟩

/-- What cannot be bound fails by the name of its address, which could not be bound. -/
theorem unbindable_of_bind_error
    {failure : HostError}
    (bound : (bind wish address network).outcome = .error failure) :
    ∃ cause,
      failure = .bind address cause ∧
        Unbindable network.rules wish address cause := by
  unfold bind at bound
  split at bound
  · next unread =>
      cases bound
      exact ⟨.addressSyntax, rfl, .unread unread⟩
  · next wanted read =>
      split at bound
      · next cause _ listened =>
          cases bound
          obtain ⟨sought, meets, refuses⟩ :=
            Network.refuses_of_listenOn_error (congrArg Prod.fst listened)
          exact ⟨cause, rfl, .refused read meets refuses⟩
      · cases bound

/-- What is bound at a port asked for is at the very address the text says. -/
theorem address_of_bind_ok
    {socket : Socket}
    (read : SocketAddress.parse? address = some wanted)
    (asked : wanted.port ≠ 0)
    (bound : (bind wish address network).outcome = .ok socket) :
    socket.address = wanted := by
  obtain ⟨known, found, meets⟩ := meets_of_bind_ok bound
  obtain rfl := Option.some.inj (read.symm.trans found)
  exact meets.eq asked

/-- An address that can be read is bound, unless the machine refuses. -/
theorem refuses_of_bind_error
    {failure : HostError}
    (read : SocketAddress.parse? address = some wanted)
    (asked : wanted.port ≠ 0)
    (bound : (bind wish address network).outcome = .error failure) :
    ∃ cause,
      failure = .bind address cause ∧
        network.rules.Refuses wish wanted cause := by
  obtain ⟨cause, same, unbindable⟩ := unbindable_of_bind_error bound
  exact ⟨cause, same, unbindable.refuses read asked⟩

end Bind

/-! ## The listeners of a host -/

section Listeners

variable
  {settings : Settings}
  {host : IpAddress}
  {network : Network}
  {protocol : Protocol}

/-- A failure to listen for a protocol that the machine is the reason for. -/
def RefusedBy
    (rules : SocketRules)
    (settings : Settings)
    (host : IpAddress)
    (failure : HostError) : Prop :=
  ∃ protocol cause,
    settings.enables protocol = true ∧
      failure = .bind (settings.listenAddress protocol) cause ∧
      rules.Refuses (.ofSettings settings)
        (wantedAddress settings host protocol) cause

@[simp] theorem rules_bindListener
    (settings : Settings)
    (network : Network)
    (protocol : Protocol) :
    (bindListener settings network protocol).network.rules =
      network.rules := by
  unfold bindListener
  dsimp only
  split
  · simp
  · split <;>
      simp

@[simp] theorem rules_bindAll
    (settings : Settings)
    (hasContext : Bool)
    (network : Network)
    (protocols : List Protocol) :
    (bindAll settings hasContext network protocols).network.rules =
      network.rules := by
  induction protocols generalizing network with
  | nil =>
      rfl
  | cons protocol rest inductionHypothesis =>
      rw [bindAll_cons]
      split
      · rfl
      · dsimp only
        split
        · exact rules_bindListener settings network protocol
        · split
          · rw [Network.rules_close, inductionHypothesis, rules_bindListener]
          · rw [inductionHypothesis, rules_bindListener]

@[simp] theorem rules_setStages
    (stage : SocketStage)
    (listeners : List Listener)
    (network : Network) :
    (setStages stage listeners network).rules = network.rules := by
  induction listeners generalizing network with
  | nil =>
      rfl
  | cons listener rest inductionHypothesis =>
      exact inductionHypothesis (network.setStage stage listener.handle)

@[simp] theorem rules_openListeners
    (settings : Settings)
    (hasContext : Bool)
    (network : Network) :
    (openListeners settings hasContext network).network.rules =
      network.rules := by
  unfold openListeners
  dsimp only
  split
  · exact rules_bindAll settings hasContext network _
  · rw [rules_setStages, rules_bindAll]

/-- A listener is at an address that meets the one its settings say. -/
theorem meets_of_bindListener_ok
    {listener : Listener}
    (opened :
      (bindListener settings network protocol).outcome = .ok listener) :
    ∃ wanted,
      SocketAddress.parse? (settings.listenAddress protocol) =
          some wanted ∧
        wanted.Meets listener.address := by
  unfold bindListener at opened
  dsimp only at opened
  split at opened
  · cases opened
  · next bound =>
      split at opened
      · cases opened
      · cases opened
        exact meets_of_bind_ok bound

/-- A listener that cannot be bound gives its address to the failure. -/
theorem unbindable_of_bindListener_error
    {failure : HostError}
    (opened :
      (bindListener settings network protocol).outcome =
        .error failure) :
    ∃ cause,
      failure = .bind (settings.listenAddress protocol) cause ∧
        Unbindable network.rules (.ofSettings settings)
          (settings.listenAddress protocol) cause := by
  unfold bindListener at opened
  dsimp only at opened
  split at opened
  · next bound =>
      cases opened
      exact unbindable_of_bind_error bound
  · next socket bound =>
      split at opened
      · next cause refused =>
          cases opened
          obtain ⟨wanted, read, meets⟩ := meets_of_bind_ok bound
          rw [rules_bind] at refused
          exact ⟨cause, rfl, .refused read meets ⟨_, _, refused⟩⟩
      · cases opened

/--
Listeners are bound for some protocols one after the other, each on the network that
the one before it has left.
-/
inductive Bound (settings : Settings) :
    Network → List Protocol → List Listener → Network → Prop where
  | none (network : Network) :
      Bound settings network [] [] network
  | next
      {network after : Network}
      {protocol : Protocol}
      {rest : List Protocol}
      {listener : Listener}
      {listeners : List Listener}
      (first :
        (bindListener settings network protocol).outcome = .ok listener)
      (others :
        Bound settings (bindListener settings network protocol).network
          rest listeners after) :
      Bound settings network (protocol :: rest) (listener :: listeners)
        after

/--
Why listeners are not bound: once those before it are bound, one cannot be bound to its
address, or there is no context for it.
-/
inductive Blames
    (settings : Settings)
    (hasContext : Bool)
    (network : Network)
    (protocols : List Protocol) : HostError → Prop where
  | address
      {earlier later : List Protocol}
      {protocol : Protocol}
      {listeners : List Listener}
      {between : Network}
      {cause : Failure}
      (order : protocols = earlier ++ protocol :: later)
      (bound : Bound settings network earlier listeners between)
      (secured : protocol = .tls → hasContext = true)
      (failed :
        (bindListener settings between protocol).outcome =
          .error (.bind (settings.listenAddress protocol) cause))
      (unbindable :
        Unbindable network.rules (.ofSettings settings)
          (settings.listenAddress protocol) cause) :
      Blames settings hasContext network protocols
        (.bind (settings.listenAddress protocol) cause)
  | keystore
      {earlier later : List Protocol}
      {listeners : List Listener}
      {between : Network}
      (order : protocols = earlier ++ .tls :: later)
      (bound : Bound settings network earlier listeners between)
      (lacking : hasContext = false) :
      Blames settings hasContext network protocols
        (.keyMaterial settings.keystoreName
          "HTTPS enabled without a TLS context")

/-- What is to blame for later listeners is to blame for all, if the first is bound. -/
theorem Blames.cons
    {hasContext : Bool}
    {protocols : List Protocol}
    {listener : Listener}
    {failure : HostError}
    (first :
      (bindListener settings network protocol).outcome = .ok listener)
    (blames :
      Blames settings hasContext
        (bindListener settings network protocol).network protocols failure) :
    Blames settings hasContext network (protocol :: protocols) failure := by
  cases blames with
  | address order bound secured failed unbindable =>
      rw [rules_bindListener] at unbindable
      exact .address (congrArg (protocol :: ·) order) (.next first bound)
        secured failed unbindable
  | keystore order bound lacking =>
      exact .keystore (congrArg (protocol :: ·) order) (.next first bound)
        lacking

/-- All listeners are bound, or the first that is not is to blame. -/
theorem bound_or_blames
    (settings : Settings)
    (hasContext : Bool)
    (network : Network)
    (protocols : List Protocol) :
    match (bindAll settings hasContext network protocols).outcome with
    | .ok listeners =>
        (.tls ∈ protocols → hasContext = true) ∧
          Bound settings network protocols listeners
            (bindAll settings hasContext network protocols).network
    | .error failure =>
        Blames settings hasContext network protocols failure := by
  induction protocols generalizing network with
  | nil =>
      exact ⟨by simp, .none network⟩
  | cons protocol rest inductionHypothesis =>
      rw [bindAll_cons]
      by_cases lacking : (protocol = .tls && !hasContext) = true
      · rw [if_pos lacking]
        obtain ⟨rfl, contextless⟩ : protocol = .tls ∧ hasContext = false := by
          simpa using lacking
        exact .keystore (List.nil_append _).symm (.none network) contextless
      have secured : protocol = .tls → hasContext = true := by
        simpa using lacking
      rw [if_neg lacking]
      have later :=
        inductionHypothesis (bindListener settings network protocol).network
      cases first :
          (bindListener settings network protocol).outcome with
      | error failure =>
          obtain ⟨cause, rfl, unbindable⟩ :=
            unbindable_of_bindListener_error first
          simp only [first]
          exact .address (List.nil_append _).symm (.none network) secured
            first unbindable
      | ok listener =>
          simp only [first]
          split at later
          · next others =>
              simp only [others]
              refine ⟨fun member => ?_, .next first later.2⟩
              rcases List.mem_cons.mp member with same | inRest
              · exact secured same.symm
              · exact later.1 inRest
          · next others =>
              simp only [others]
              exact .cons first later

/-- Listeners bound at ports asked for are at the very addresses that are wanted. -/
theorem Bound.address
    {protocols : List Protocol}
    {listeners : List Listener}
    {after : Network}
    (bound : Bound settings network protocols listeners after)
    (meant : IpAddress.parse? settings.ip = some host)
    (asked : ∀ protocol ∈ protocols, settings.port protocol ≠ 0) :
    listeners.map Listener.address =
      protocols.map (wantedAddress settings host) := by
  induction bound with
  | none network =>
      rfl
  | next first others inductionHypothesis =>
      obtain ⟨wanted, read, meets⟩ := meets_of_bindListener_ok first
      obtain rfl :=
        Option.some.inj ((parse?_listenAddress meant _).symm.trans read)
      rw [List.map_cons, List.map_cons,
        meets.eq (asked _ List.mem_cons_self),
        inductionHypothesis fun other member =>
          asked other (List.mem_cons_of_mem _ member)]

/-- A failure blames the missing context or an address the machine refused. -/
theorem Blames.refused
    {hasContext : Bool}
    {failure : HostError}
    (blames :
      Blames settings hasContext network settings.enabledProtocols failure)
    (meant : IpAddress.parse? settings.ip = some host)
    (asked :
      ∀ protocol,
        settings.enables protocol = true → settings.port protocol ≠ 0) :
    (hasContext = false ∧ settings.enableHttps = true ∧
        failure = missingContext settings) ∨
      RefusedBy network.rules settings host failure := by
  have enables
      {earlier later : List Protocol}
      {protocol : Protocol}
      (order : settings.enabledProtocols = earlier ++ protocol :: later) :
      settings.enables protocol = true :=
    Settings.mem_enabledProtocols.mp (by simp [order])
  cases blames with
  | @address earlier later protocol listeners between cause order bound
      secured failed unbindable =>
      exact .inr ⟨protocol, cause, enables order, rfl,
        unbindable.refuses (parse?_listenAddress meant protocol)
          (asked protocol (enables order))⟩
  | keystore order bound lacking =>
      exact .inl ⟨lacking, enables order, rfl⟩

/-- All listeners serve, or the first that cannot be bound is to blame. -/
theorem serving_or_blames
    (settings : Settings)
    (hasContext : Bool)
    (network : Network) :
    match (openListeners settings hasContext network).outcome with
    | .ok listeners =>
        (settings.enableHttps = true → hasContext = true) ∧
          ∃ after,
            Bound settings network settings.enabledProtocols listeners after
    | .error failure =>
        Blames settings hasContext network settings.enabledProtocols
          failure := by
  have found :=
    bound_or_blames settings hasContext network settings.enabledProtocols
  unfold openListeners
  dsimp only
  split at found
  · next listeners bound =>
      rw [bound]
      exact ⟨fun enabled => found.1 (Settings.mem_enabledProtocols.mpr enabled),
        _, found.2⟩
  · next failure bound =>
      rw [bound]
      dsimp only
      rw [bound]
      exact found

/-- Listeners that serve have the addresses that the settings ask for. -/
theorem address_of_openListeners_ok
    {hasContext : Bool}
    {listeners : List Listener}
    (meant : IpAddress.parse? settings.ip = some host)
    (asked :
      ∀ protocol,
        settings.enables protocol = true → settings.port protocol ≠ 0)
    (opened :
      (openListeners settings hasContext network).outcome =
        .ok listeners) :
    ∀ listener ∈ listeners,
      listener.address = wantedAddress settings host listener.protocol := by
  obtain ⟨-, protocols, -⟩ := sockets_of_openListeners_ok opened
  have found := serving_or_blames settings hasContext network
  rw [opened] at found
  obtain ⟨-, after, bound⟩ := found
  apply List.map_inj_left.mp
  rw [← Function.comp_def, ← List.map_map, protocols]
  exact bound.address meant fun protocol member =>
    asked protocol (Settings.mem_enabledProtocols.mp member)

/-- Listeners cannot be opened for want of a TLS context, or because the machine refuses. -/
theorem refused_of_openListeners_error
    {hasContext : Bool}
    {failure : HostError}
    (meant : IpAddress.parse? settings.ip = some host)
    (asked :
      ∀ protocol,
        settings.enables protocol = true → settings.port protocol ≠ 0)
    (opened :
      (openListeners settings hasContext network).outcome =
        .error failure) :
    (hasContext = false ∧ settings.enableHttps = true ∧
        failure = missingContext settings) ∨
      RefusedBy network.rules settings host failure := by
  have found := serving_or_blames settings hasContext network
  rw [opened] at found
  exact found.refused meant asked

end Listeners

end PluggableHost.Net
