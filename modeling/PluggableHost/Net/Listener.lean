import PluggableHost.Config.Settings
import PluggableHost.Error
import PluggableHost.Net.Socket
import PluggableHost.Observability.Journal

namespace PluggableHost.Net

open PluggableHost.Config PluggableHost.Observability PluggableHost.Os

/-!
# Listeners

A host opens one listener for each enabled protocol, the one in the clear
first. No listener serves before every socket is bound, so a failure leaves
nothing open. Stopping is in two parts, so that it can be told when a listener
has come to its end: every listener stops taking connections, and then each is
waited for.
-/

/-- A listener that serves. -/
structure Listener where
  protocol : Protocol
  /-- The address that its socket is bound to. -/
  address : SocketAddress
  handle : Nat
  deriving Repr, DecidableEq

/-- The listeners as descriptions show them. -/
def listenersText (listeners : List Listener) : String :=
  let texts := listeners.map fun listener =>
    "(" ++ listener.protocol.label ++ ", " ++ listener.address.text ++ ")"
  "[" ++ String.intercalate ", " texts ++ "]"

/-- What an attempt on the network leads to. -/
structure Opening (α : Type) where
  outcome : Except HostError α
  network : Network
  journal : List Entry := []

/-- An event of the listeners. -/
def listenerEvent (level : Level) (message : String)
    (fields : List (String × FieldValue) := []) : Entry :=
  .log level .listeners message fields

/-- The socket settings among the settings of a host. -/
def SocketSettings.ofSettings (settings : Settings) : SocketSettings :=
  { backlog := settings.backlog, receiveBuffer := settings.bufferSize }

/-- A failure to listen at an address, reported. -/
def unableToBind (address : String) (cause : Failure) (network : Network) : Opening Socket :=
  { outcome := .error (.bind address cause)
    network
    journal :=
      [listenerEvent .error "Unable to bind listener"
        [("address", .text address), ("error", .text cause.message)]] }

/-- Open a socket that listens at an address that is given as a text. -/
def bind (settings : SocketSettings) (address : String) (network : Network) : Opening Socket :=
  match SocketAddress.parse? address with
  | none => unableToBind address .addressSyntax network
  | some wanted =>
      match network.listenOn settings wanted with
      | (.error cause, network) => unableToBind address cause network
      | (.ok socket, network) => { outcome := .ok socket, network }

/-- Bind the listener of a protocol and read the address that it got. -/
def bindListener (settings : Settings) (network : Network) (protocol : Protocol) :
    Opening Listener :=
  let wish := SocketSettings.ofSettings settings
  let address := settings.listenAddress protocol
  let bound := bind wish address network
  match bound.outcome with
  | .error failure => ⟨.error failure, bound.network, bound.journal⟩
  | .ok socket =>
      match bound.network.rules.refusal? .readAddress wish socket.address bound.network.sockets with
      | some cause =>
          ⟨.error (.bind address cause), bound.network.close socket.handle, bound.journal⟩
      | none =>
          let listener : Listener :=
            { protocol, address := socket.address, handle := socket.handle }
          ⟨.ok listener, bound.network, bound.journal⟩

/-- What TLS listeners lack when there is no context. -/
def missingContext (settings : Settings) : HostError :=
  .keyMaterial settings.keystoreName "HTTPS enabled without a TLS context"

/-- Bind the listeners of several protocols. A failure closes those bound before it. -/
def bindAll (settings : Settings) (hasContext : Bool) (network : Network) :
    List Protocol → Opening (List Listener)
  | [] => { outcome := .ok [], network }
  | protocol :: rest =>
      if protocol = .tls && !hasContext then
        { outcome := .error (missingContext settings), network }
      else
        let first := bindListener settings network protocol
        match first.outcome with
        | .error failure => ⟨.error failure, first.network, first.journal⟩
        | .ok listener =>
            let others := bindAll settings hasContext first.network rest
            let journal := first.journal ++ others.journal
            match others.outcome with
            | .error failure => ⟨.error failure, others.network.close listener.handle, journal⟩
            | .ok listeners => ⟨.ok (listener :: listeners), others.network, journal⟩

/-- The message with which a listener is announced. -/
def Listener.title (listener : Listener) : String :=
  match listener.protocol with
  | .plain => "Http Server started"
  | .tls => "Https Server started"

/-- What is told when listeners begin to serve, be they none. -/
def beganServing (settings : Settings) (listeners : List Listener) : List Entry :=
  let started := listeners.map fun listener =>
    listenerEvent .info listener.title
      [("ip", .text settings.ip), ("port", .number listener.address.port.toNat)]
  let idle := listenerEvent .warn "Neither HTTP nor HTTPS is enabled, no listener opened"
  started ++ (if listeners.isEmpty then [idle] else []) ++
    [.metric (.openListeners listeners.length)]

/-- Let all listeners serve, or stop taking connections. -/
def setStages (stage : SocketStage) (listeners : List Listener) (network : Network) : Network :=
  listeners.foldl (fun network listener => network.setStage stage listener.handle) network

/-- Open the listeners of the enabled protocols and let them serve. -/
def openListeners (settings : Settings) (hasContext : Bool) (network : Network) :
    Opening (List Listener) :=
  let bound := bindAll settings hasContext network settings.enabledProtocols
  match bound.outcome with
  | .error _ => bound
  | .ok listeners =>
      { outcome := .ok listeners
        network := setStages .serving listeners bound.network
        journal := bound.journal ++ beganServing settings listeners }

namespace Listener

/-- The fields by which events tell a listener from others. -/
def fields (listener : Listener) : List (String × FieldValue) :=
  [("protocol", .text listener.protocol.name), ("address", .text listener.address.text)]

/-- The event that a listener has not come to its end in order. -/
def faulted (listener : Listener) (fault : ServingFault) : Entry :=
  let message :=
    match fault with
    | .failed _ => "Listener exited with error"
    | .brokeDown _ => "Listener task failed"
  listenerEvent .warn message (listener.fields ++ [("error", .text fault.message)])

/-- The event that a listener has come to its end. -/
def ended (listener : Listener) : Entry :=
  listenerEvent .info "Listener stopped" listener.fields

/-- All that is told of the end of a listener. -/
def farewell (rules : SocketRules) (listener : Listener) : List Entry :=
  ((rules.fault? listener.handle).map listener.faulted).toList ++ [listener.ended]

end Listener

/-- The listeners of one host, as long as they have not been stopped. -/
structure Listening where
  listeners : List Listener := []
  deriving Repr, DecidableEq

namespace Listening

/-- Some listener is open. -/
def isRunning (listening : Listening) : Bool := !listening.listeners.isEmpty

/-- The listeners of a host as a description shows them. -/
def text (listening : Listening) : String :=
  "RunningServer \x7b listeners: " ++ listenersText listening.listeners ++ " \x7d"

/--
Stop all listeners and wait until requests in flight have come to their end.
Once stopped, stopping again does nothing.
-/
def stop (listening : Listening) (network : Network) : Listening × Network × List Entry :=
  if listening.isRunning then
    let draining := setStages .draining listening.listeners network
    ({}, draining.drain,
      listening.listeners.flatMap (Listener.farewell network.rules) ++
        [.metric (.openListeners 0)])
  else (listening, network, [])

end Listening

end PluggableHost.Net
