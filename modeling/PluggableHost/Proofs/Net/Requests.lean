import PluggableHost.Proofs.Net.Binding

namespace PluggableHost.Net

open PluggableHost.Config PluggableHost.Os

/-!
# What a machine is asked for

A listener takes seven operations on one socket.  They are listed here apart from the
code that carries them out, each with the address it is about and the sockets that the
machine finds open at that moment.  A listener is made if the machine refuses none of
them.  Otherwise the first that it refuses is the cause of the failure, and the failure
names the address of the protocol whose turn it was.
-/

/-- An operation on a socket, as the machine is asked for it. -/
structure SocketRequest where
  operation : SocketOperation
  /-- The address of the socket when the machine is asked. -/
  address : SocketAddress
  /-- The sockets that are open when the machine is asked. -/
  sockets : List Socket

namespace SocketRules

/-- Why a machine refuses a request, if it does. -/
def objection?
    (rules : SocketRules)
    (wish : SocketSettings)
    (request : SocketRequest) : Option Failure :=
  rules.refusal? request.operation wish request.address request.sockets

/--
The address that a socket is bound to: the one that is wanted, with the port that the
machine gives if it is wanted on any port.
-/
def given
    (rules : SocketRules)
    (others : List Socket)
    (handle : Nat)
    (wanted : SocketAddress) : SocketAddress :=
  wanted.settled
    (rules.freePort wanted (others ++ [{ handle, address := wanted }]))

/--
All that a machine is asked for on the way to a listening socket behind others: the
socket, two options, the wanted address, to listen at the address that was given, to
hand the socket over, and to tell that address.
-/
def requests
    (rules : SocketRules)
    (others : List Socket)
    (handle : Nat)
    (wanted : SocketAddress) : List SocketRequest :=
  let given := rules.given others handle wanted
  let fresh : Socket := { handle, address := wanted }
  let bound : Socket := { handle, address := given, stage := .bound }
  let listening : Socket := { handle, address := given, stage := .listening }
  [⟨.create, wanted, others⟩,
    ⟨.shareAddress, wanted, others ++ [fresh]⟩,
    ⟨.sizeBuffer, wanted, others ++ [fresh]⟩,
    ⟨.bind, wanted, others ++ [fresh]⟩,
    ⟨.listen, given, others ++ [bound]⟩,
    ⟨.handOver, given, others ++ [listening]⟩,
    ⟨.readAddress, given, others ++ [listening]⟩]

/-- A machine refuses nothing on the way to a listening socket. -/
def Grants
    (rules : SocketRules)
    (wish : SocketSettings)
    (others : List Socket)
    (handle : Nat)
    (wanted : SocketAddress) : Prop :=
  ∀ request ∈ rules.requests others handle wanted,
    rules.objection? wish request = none

/-- A machine refuses something on the way to a listening socket, this being the first. -/
def Denies
    (rules : SocketRules)
    (wish : SocketSettings)
    (others : List Socket)
    (handle : Nat)
    (wanted : SocketAddress)
    (cause : Failure) : Prop :=
  ∃ granted refused left,
    rules.requests others handle wanted = granted ++ refused :: left ∧
      (∀ request ∈ granted, rules.objection? wish request = none) ∧
      rules.objection? wish refused = some cause

end SocketRules

/-! ## One listener -/

section Carrying

variable
  {rules : SocketRules}
  {wish : SocketSettings}
  {others : List Socket}

/-- What a machine is asked for when operations are carried out on the socket opened last. -/
def SocketRules.requestsOn
    (rules : SocketRules)
    (others : List Socket) :
    Socket → List SocketOperation → List SocketRequest
  | _, [] => []
  | socket, operation :: rest =>
      let sockets := others ++ [socket]
      let free := rules.freePort socket.address sockets
      ⟨operation, socket.address, sockets⟩ ::
        rules.requestsOn others (socket.after free operation) rest

/-- The socket opened last when operations have been carried out on it. -/
def SocketRules.socketAfter
    (rules : SocketRules)
    (others : List Socket) :
    Socket → List SocketOperation → Socket
  | socket, [] => socket
  | socket, operation :: rest =>
      let free := rules.freePort socket.address (others ++ [socket])
      rules.socketAfter others (socket.after free operation) rest

/-- Operations are carried out until the machine refuses the first of them. -/
theorem Network.outcome_carryOut
    (wish : SocketSettings)
    {network : Network}
    {socket : Socket}
    (operations : List SocketOperation)
    (shape : network.sockets = others ++ [socket])
    (fresh : ∀ other ∈ others, other.handle ≠ socket.handle) :
    (network.carryOut wish socket operations).1 =
      match (network.rules.requestsOn others socket operations).findSome?
          (network.rules.objection? wish) with
      | some cause => .error cause
      | none => .ok (network.rules.socketAfter others socket operations) := by
  induction operations generalizing network socket with
  | nil =>
      rfl
  | cons operation rest inductionHypothesis =>
      have changed :=
        sockets_update_last
          (fun current =>
            current.after
              (network.rules.freePort socket.address network.sockets)
              operation)
          shape fresh (by simp)
      have later :=
        inductionHypothesis changed (by simpa using fresh)
      simp only [carryOut, SocketRules.requestsOn, SocketRules.socketAfter,
        List.findSome?_cons, SocketRules.objection?, shape] at later ⊢
      cases answered :
          network.rules.refusal? operation wish socket.address
            (others ++ [socket]) with
      | some cause =>
          rfl
      | none =>
          exact later

/-- What a machine is asked for until a socket listens, and before it tells its address. -/
def SocketRules.requestsToListen
    (rules : SocketRules)
    (others : List Socket)
    (handle : Nat)
    (wanted : SocketAddress) : List SocketRequest :=
  ⟨.create, wanted, others⟩ ::
    rules.requestsOn others { handle, address := wanted } Network.preparation

/-- The socket that listens when a machine has refused nothing. -/
def SocketRules.listeningSocket
    (rules : SocketRules)
    (others : List Socket)
    (handle : Nat)
    (wanted : SocketAddress) : Socket :=
  { handle, address := rules.given others handle wanted, stage := .listening }

/-- The last that a machine is asked for is the address of the socket that listens. -/
theorem SocketRules.requests_eq
    (rules : SocketRules)
    (others : List Socket)
    (handle : Nat)
    (wanted : SocketAddress) :
    rules.requests others handle wanted =
      rules.requestsToListen others handle wanted ++
        [⟨.readAddress, rules.given others handle wanted,
          others ++ [rules.listeningSocket others handle wanted]⟩] :=
  rfl

/-- A machine grants a socket when it objects to none of the requests for it. -/
theorem SocketRules.grants_iff
    {handle : Nat}
    {wanted : SocketAddress} :
    rules.Grants wish others handle wanted ↔
      (rules.requests others handle wanted).findSome?
        (rules.objection? wish) = none :=
  List.findSome?_eq_none_iff.symm

/-- A machine denies a socket with the first objection to the requests for it. -/
theorem SocketRules.denies_iff
    {handle : Nat}
    {wanted : SocketAddress}
    {cause : Failure} :
    rules.Denies wish others handle wanted cause ↔
      (rules.requests others handle wanted).findSome?
        (rules.objection? wish) = some cause := by
  rw [List.findSome?_eq_some_iff]
  constructor
  · rintro ⟨granted, refused, left, shape, silent, objected⟩
    exact ⟨granted, refused, left, shape, objected, silent⟩
  · rintro ⟨granted, refused, left, shape, objected, silent⟩
    exact ⟨granted, refused, left, shape, silent, objected⟩

/-- A socket comes to listen, unless the machine refuses an operation before that. -/
theorem Network.outcome_listenOn
    (network : Network)
    (wish : SocketSettings)
    (wanted : SocketAddress) :
    (network.listenOn wish wanted).1 =
      match
        (network.rules.requestsToListen network.sockets network.opened
            wanted).findSome?
          (network.rules.objection? wish) with
      | some cause => .error cause
      | none =>
          .ok
            (network.rules.listeningSocket network.sockets network.opened
              wanted) := by
  have added :
      (network.add wanted).2.sockets =
        network.sockets ++
          [{ handle := network.opened, address := wanted }] :=
    rfl
  have carried :=
    outcome_carryOut wish preparation added network.handle_ne_opened
  simp only [listenOn, SocketRules.requestsToListen, List.findSome?_cons,
    SocketRules.objection?] at carried ⊢
  cases answered :
      network.rules.refusal? .create wish wanted network.sockets with
  | some cause =>
      rfl
  | none =>
      exact carried

/-- An address that can be read is bound, unless the machine refuses an operation. -/
theorem outcome_bind
    (wish : SocketSettings)
    {address : String}
    {wanted : SocketAddress}
    (read : SocketAddress.parse? address = some wanted)
    (network : Network) :
    (bind wish address network).outcome =
      match
        (network.rules.requestsToListen network.sockets network.opened
            wanted).findSome?
          (network.rules.objection? wish) with
      | some cause => .error (.bind address cause)
      | none =>
          .ok
            (network.rules.listeningSocket network.sockets network.opened
              wanted) := by
  have listened := network.outcome_listenOn wish wanted
  unfold bind
  rw [read]
  dsimp only
  rcases carried : network.listenOn wish wanted with
    ⟨cause | socket, after⟩ <;>
    rw [carried] at listened <;>
    split at listened <;>
    cases listened <;>
    rfl

end Carrying

section Listener

variable
  {settings : Settings}
  {network : Network}
  {protocol : Protocol}

/--
A listener is made if the machine refuses nothing on the way; then it is on the address
that the machine gave.
-/
theorem outcome_bindListener
    {wanted : SocketAddress}
    (read :
      SocketAddress.parse? (settings.listenAddress protocol) =
        some wanted) :
    (bindListener settings network protocol).outcome =
      match
        (network.rules.requests network.sockets network.opened
            wanted).findSome?
          (network.rules.objection? (.ofSettings settings)) with
      | some cause => .error (.bind (settings.listenAddress protocol) cause)
      | none =>
          .ok
            { protocol
              address :=
                network.rules.given network.sockets network.opened wanted
              handle := network.opened } := by
  have bound :=
    outcome_bind (.ofSettings settings) read network
  have rules :=
    rules_bind (.ofSettings settings) (settings.listenAddress protocol)
      network
  rw [SocketRules.requests_eq, List.findSome?_append]
  cases answered :
      (network.rules.requestsToListen network.sockets network.opened
          wanted).findSome?
        (network.rules.objection? (.ofSettings settings)) with
  | some cause =>
      rw [answered] at bound
      unfold bindListener
      dsimp only
      rw [bound]
      rfl
  | none =>
      rw [answered] at bound
      obtain ⟨sockets, -, -, -⟩ := sockets_of_bind_ok bound
      rw [Option.none_or, ← sockets]
      delta bindListener
      dsimp only
      generalize
        bind (.ofSettings settings) (settings.listenAddress protocol)
          network = opening at *
      rw [bound]
      dsimp only
      rw [rules, List.findSome?_singleton]
      unfold SocketRules.objection? SocketRules.listeningSocket
      dsimp only
      cases
        network.rules.refusal? .readAddress (.ofSettings settings)
          (network.rules.given network.sockets network.opened wanted)
          opening.network.sockets <;>
        rfl

/-- An address that cannot be read is not listened at. -/
theorem outcome_bindListener_of_unread
    (unread :
      SocketAddress.parse? (settings.listenAddress protocol) = none) :
    (bindListener settings network protocol).outcome =
      .error (.bind (settings.listenAddress protocol) .addressSyntax) := by
  have bound :
      (bind (.ofSettings settings) (settings.listenAddress protocol)
          network).outcome =
        .error
          (.bind (settings.listenAddress protocol) .addressSyntax) := by
    unfold bind
    rw [unread]
    rfl
  unfold bindListener
  dsimp only
  rw [bound]

/-- A listener that was made is one that the machine granted. -/
theorem grants_of_bindListener_ok
    {listener : Listener}
    (opened :
      (bindListener settings network protocol).outcome = .ok listener) :
    ∃ wanted,
      SocketAddress.parse? (settings.listenAddress protocol) =
          some wanted ∧
        network.rules.Grants (.ofSettings settings) network.sockets
          network.opened wanted ∧
        listener =
          { protocol
            address :=
              network.rules.given network.sockets network.opened wanted
            handle := network.opened } := by
  obtain ⟨wanted, read, -⟩ := meets_of_bindListener_ok opened
  rw [outcome_bindListener read] at opened
  split at opened
  · cases opened
  · next granted =>
      cases opened
      exact ⟨wanted, read, SocketRules.grants_iff.mpr granted, rfl⟩

/-- A listener that was not made has no address, or is one that the machine denied. -/
theorem denies_of_bindListener_error
    {failure : HostError}
    (opened :
      (bindListener settings network protocol).outcome =
        .error failure) :
    (SocketAddress.parse? (settings.listenAddress protocol) = none ∧
        failure =
          .bind (settings.listenAddress protocol) .addressSyntax) ∨
      ∃ wanted cause,
        SocketAddress.parse? (settings.listenAddress protocol) =
            some wanted ∧
          network.rules.Denies (.ofSettings settings) network.sockets
            network.opened wanted cause ∧
          failure = .bind (settings.listenAddress protocol) cause := by
  cases read : SocketAddress.parse? (settings.listenAddress protocol) with
  | none =>
      rw [outcome_bindListener_of_unread read] at opened
      exact .inl ⟨rfl, (Except.error.inj opened).symm⟩
  | some wanted =>
      rw [outcome_bindListener read] at opened
      split at opened
      · next cause denied =>
          exact .inr ⟨wanted, cause, rfl,
            SocketRules.denies_iff.mpr denied,
            (Except.error.inj opened).symm⟩
      · cases opened

end Listener

/-! ## The listeners of several protocols -/

/--
The machine granted a listener to each of some protocols, one after the other: every
request for it, behind the sockets that were open and those of the listeners before it.
The listener is on the address that its socket was bound to.
-/
inductive Granted
    (rules : SocketRules)
    (settings : Settings) :
    List Socket → Nat → List Protocol → List Listener → Prop where
  | none
      (others : List Socket)
      (handle : Nat) :
      Granted rules settings others handle [] []
  | next
      {others : List Socket}
      {handle : Nat}
      {protocol : Protocol}
      {rest : List Protocol}
      {listeners : List Listener}
      {wanted : SocketAddress}
      (read :
        SocketAddress.parse? (settings.listenAddress protocol) =
          some wanted)
      (grants : rules.Grants (.ofSettings settings) others handle wanted)
      (later :
        Granted rules settings
          (others ++ [rules.listeningSocket others handle wanted])
          (handle + 1) rest listeners) :
      Granted rules settings others handle (protocol :: rest)
        ({ protocol, address := rules.given others handle wanted, handle } ::
          listeners)

/--
Why some protocols are not listened for.  Those before one of them were granted their
listeners; its own address cannot be read, or the machine refused a request for it, or
it is TLS and has no context.
-/
inductive Denied
    (rules : SocketRules)
    (settings : Settings)
    (hasContext : Bool)
    (others : List Socket)
    (handle : Nat)
    (protocols : List Protocol) : HostError → Prop where
  | unread
      {earlier later : List Protocol}
      {protocol : Protocol}
      {listeners : List Listener}
      (order : protocols = earlier ++ protocol :: later)
      (granted : Granted rules settings others handle earlier listeners)
      (secured : protocol = .tls → hasContext = true)
      (unread :
        SocketAddress.parse? (settings.listenAddress protocol) = none) :
      Denied rules settings hasContext others handle protocols
        (.bind (settings.listenAddress protocol) .addressSyntax)
  | refused
      {earlier later : List Protocol}
      {protocol : Protocol}
      {listeners : List Listener}
      {wanted : SocketAddress}
      {cause : Failure}
      (order : protocols = earlier ++ protocol :: later)
      (granted : Granted rules settings others handle earlier listeners)
      (secured : protocol = .tls → hasContext = true)
      (read :
        SocketAddress.parse? (settings.listenAddress protocol) =
          some wanted)
      (denies :
        rules.Denies (.ofSettings settings)
          (others ++
            listeners.map fun listener => listener.socket .listening)
          (handle + listeners.length) wanted cause) :
      Denied rules settings hasContext others handle protocols
        (.bind (settings.listenAddress protocol) cause)
  | contextless
      {earlier later : List Protocol}
      {listeners : List Listener}
      (order : protocols = earlier ++ .tls :: later)
      (granted : Granted rules settings others handle earlier listeners)
      (lacking : hasContext = false) :
      Denied rules settings hasContext others handle protocols
        (.keyMaterial settings.keystoreName
          "HTTPS enabled without a TLS context")

section Listeners

variable
  {settings : Settings}
  {network after : Network}
  {protocols : List Protocol}
  {listeners : List Listener}

/-- What bound listeners leave of a network: their sockets, behind those that were open. -/
theorem Bound.leaves
    (bound : Bound settings network protocols listeners after) :
    after.rules = network.rules ∧
      after.sockets =
        network.sockets ++
          listeners.map (fun listener => listener.socket .listening) ∧
      after.opened = network.opened + listeners.length := by
  induction bound with
  | none network =>
      exact ⟨rfl, (List.append_nil _).symm, rfl⟩
  | next first others inductionHypothesis =>
      obtain ⟨rules, sockets, opened⟩ := inductionHypothesis
      obtain ⟨firstSockets, firstOpened, -, -⟩ :=
        sockets_of_bindListener_ok first
      refine ⟨rules.trans (rules_bindListener _ _ _), ?_, ?_⟩
      · rw [sockets, firstSockets, List.append_assoc]
        rfl
      · rw [opened, firstOpened, List.length_cons]
        omega

/-- Listeners that were bound are listeners that the machine granted. -/
theorem Bound.granted
    (bound : Bound settings network protocols listeners after) :
    Granted network.rules settings network.sockets network.opened
      protocols listeners := by
  induction bound with
  | none network =>
      exact .none _ _
  | next first others inductionHypothesis =>
      obtain ⟨sockets, opened, -, -⟩ := sockets_of_bindListener_ok first
      rw [rules_bindListener, sockets, opened] at inductionHypothesis
      obtain ⟨wanted, read, grants, rfl⟩ := grants_of_bindListener_ok first
      exact .next read grants inductionHypothesis

/-- What is to blame was denied by the machine, or lacks its context. -/
theorem Blames.denied
    {hasContext : Bool}
    {failure : HostError}
    (blames : Blames settings hasContext network protocols failure) :
    Denied network.rules settings hasContext network.sockets
      network.opened protocols failure := by
  cases blames with
  | keystore order bound lacking =>
      exact .contextless order bound.granted lacking
  | address order bound secured failed unbindable =>
      obtain ⟨rules, sockets, opened⟩ := bound.leaves
      rcases denies_of_bindListener_error failed with
        ⟨unread, same⟩ | ⟨wanted, cause, read, denies, same⟩
      · rw [same]
        exact .unread order bound.granted secured unread
      · rw [same]
        rw [rules, sockets, opened] at denies
        exact .refused order bound.granted secured read denies

/-- Where no context is missing, the machine or an address is the reason. -/
theorem Denied.secured
    {rules : SocketRules}
    {hasContext : Bool}
    {others : List Socket}
    {handle : Nat}
    {failure : HostError}
    (denied :
      Denied rules settings hasContext others handle protocols failure)
    (contexts : .tls ∈ protocols → hasContext = true) :
    Denied rules settings true others handle protocols failure := by
  cases denied with
  | unread order granted secured unread =>
      exact .unread order granted (fun _ => rfl) unread
  | refused order granted secured read denies =>
      exact .refused order granted (fun _ => rfl) read denies
  | contextless order granted lacking =>
      rw [contexts (by simp [order])] at lacking
      cases lacking

end Listeners

end PluggableHost.Net
