import PluggableHost.Net.Address
import PluggableHost.Os.Failure

namespace PluggableHost.Net

open PluggableHost.Os

/-!
# Sockets

The sockets that are open on a machine, and the operations that make one of
them listen. The machine may refuse any operation; its rules are part of the
network, so that statements about listeners hold whatever a machine refuses.
-/

/-- How far a socket has come. -/
inductive SocketStage where
  | fresh
  | bound
  | listening
  /-- Connections are taken and their requests are answered. -/
  | serving
  /-- No connection is taken any more; requests in flight go on. -/
  | draining
  deriving Repr, DecidableEq

/-- A socket that is open. -/
structure Socket where
  handle : Nat
  /-- The address that was asked for, and once bound the address it is bound to. -/
  address : SocketAddress
  stage : SocketStage := .fresh
  deriving Repr, DecidableEq

/-- The operations on the way to a listening socket, in their order. -/
inductive SocketOperation where
  | create
  | shareAddress
  | sizeBuffer
  | bind
  | listen
  | handOver
  | readAddress
  deriving Repr, DecidableEq

/-- How a listening socket is set up. -/
structure SocketSettings where
  /-- The number of connections that may wait to be taken. -/
  backlog : UInt32
  /-- The size of the receive buffer in bytes. -/
  receiveBuffer : UInt32
  deriving Repr, DecidableEq

/-- How a socket may come to its end otherwise than by having answered its requests. -/
inductive ServingFault where
  /-- The serving ended with a failure of the machine. -/
  | failed (cause : Failure)
  /-- The serving broke down. -/
  | brokeDown (reason : String)
  deriving Repr, DecidableEq

/-- The fault in words. -/
def ServingFault.message : ServingFault → String
  | failed cause => cause.message
  | brokeDown reason => reason

/-- What a machine refuses, and which port it gives to a socket that asks for any. -/
structure SocketRules where
  refusal? : SocketOperation → SocketSettings → SocketAddress → List Socket → Option Failure
  freePort : SocketAddress → List Socket → UInt16
  /-- The fault with which the serving of the socket with a handle ends, if any. -/
  fault? : Nat → Option ServingFault := fun _ => none

/-- Where no socket is open, no handle is taken. -/
theorem handle_lt_of_unopened : ∀ socket ∈ ([] : List Socket), socket.handle < 0 :=
  fun _ member => absurd member List.not_mem_nil

/-- The open sockets of a machine. -/
structure Network where
  rules : SocketRules
  sockets : List Socket := []
  /-- How many sockets have been opened so far, which is the next handle. -/
  opened : Nat := 0
  handle_lt : ∀ socket ∈ sockets, socket.handle < opened := by
    exact PluggableHost.Net.handle_lt_of_unopened

/-- The address that a socket gets when it is bound. -/
def SocketAddress.settled (free : UInt16) (wanted : SocketAddress) : SocketAddress :=
  if wanted.port = 0 then { wanted with port := free } else wanted

/-- A socket after an operation that was not refused. -/
def Socket.after (free : UInt16) (socket : Socket) : SocketOperation → Socket
  | .bind => { socket with address := socket.address.settled free, stage := .bound }
  | .listen => { socket with stage := .listening }
  | _ => socket

@[simp] theorem Socket.handle_after (free : UInt16) (socket : Socket)
    (operation : SocketOperation) : (socket.after free operation).handle = socket.handle := by
  cases operation <;> rfl

namespace Network

/-- Open a socket that is to get an address. -/
def add (network : Network) (address : SocketAddress) : Socket × Network :=
  let socket : Socket := { handle := network.opened, address }
  (socket,
    { network with
      sockets := network.sockets ++ [socket]
      opened := network.opened + 1
      handle_lt := by
        intro other member
        rcases List.mem_append.1 member with old | new
        · exact Nat.lt_succ_of_lt (network.handle_lt other old)
        · simp only [List.mem_singleton] at new
          subst new
          exact Nat.lt_succ_self _ })

/-- Close the socket with a handle. -/
def close (network : Network) (handle : Nat) : Network :=
  { network with
    sockets := network.sockets.filter fun socket => socket.handle != handle
    handle_lt := fun socket member =>
      network.handle_lt socket (List.mem_filter.1 member).1 }

/-- Change the socket with a handle, which keeps its handle. -/
def update (network : Network) (handle : Nat) (change : Socket → Socket) : Network :=
  { network with
    sockets := network.sockets.map fun socket =>
      if socket.handle = handle then { change socket with handle } else socket
    handle_lt := by
      intro socket member
      obtain ⟨old, present, rfl⟩ := List.mem_map.1 member
      have bound := network.handle_lt old present
      split
      · next same => simpa [same] using bound
      · exact bound }

/-- The socket with a handle is open. -/
def isOpen (network : Network) (handle : Nat) : Bool :=
  network.sockets.any fun socket => socket.handle = handle

/-- Carry out operations on a socket in order. The first refusal closes the socket. -/
def carryOut (settings : SocketSettings) (socket : Socket) (network : Network) :
    List SocketOperation → Except Failure Socket × Network
  | [] => (.ok socket, network)
  | operation :: rest =>
      match network.rules.refusal? operation settings socket.address network.sockets with
      | some cause => (.error cause, network.close socket.handle)
      | none =>
          let free := network.rules.freePort socket.address network.sockets
          carryOut settings (socket.after free operation)
            (network.update socket.handle fun current => current.after free operation) rest

/-- The operations that make an open socket listen. -/
def preparation : List SocketOperation :=
  [.shareAddress, .sizeBuffer, .bind, .listen, .handOver]

/-- Open a socket and make it listen at an address, unless the machine refuses that. -/
def listenOn (network : Network) (settings : SocketSettings) (wanted : SocketAddress) :
    Except Failure Socket × Network :=
  match network.rules.refusal? .create settings wanted network.sockets with
  | some cause => (.error cause, network)
  | none =>
      let (socket, network) := network.add wanted
      network.carryOut settings socket preparation

/-- Let a socket serve, or stop taking connections. -/
def setStage (network : Network) (stage : SocketStage) (handle : Nat) : Network :=
  network.update handle fun socket => { socket with stage }

/-- Close every socket that is draining: the requests in flight have come to their end. -/
def drain (network : Network) : Network :=
  { network with
    sockets := network.sockets.filter fun socket => socket.stage != .draining
    handle_lt := fun socket member =>
      network.handle_lt socket (List.mem_filter.1 member).1 }

/-- A socket that was closed is not open. -/
@[simp] theorem isOpen_close (network : Network) (handle : Nat) :
    (network.close handle).isOpen handle = false := by
  simp [isOpen, close]

end Network

/-- An address of a carried IPv4 host counts as that host. -/
def IpAddress.bare : IpAddress → IpAddress
  | .v4 address => .v4 address
  | .v6 address =>
      match address.carriedIpv4? with
      | some carried => .v4 carried
      | none => .v6 address

/-- Some address belongs to both hosts; the IPv6 wildcard stands for both families. -/
def IpAddress.overlaps (first second : IpAddress) : Bool :=
  match first.bare, second.bare with
  | .v4 first, .v4 second => first = second || first = .unspecified || second = .unspecified
  | .v6 first, .v6 second => first = second || first = .unspecified || second = .unspecified
  | .v4 _, .v6 second => second = .unspecified
  | .v6 first, .v4 _ => first = .unspecified

/-- A socket that listens stands in the way of another at an address. -/
def Socket.obstructs (wanted : SocketAddress) (socket : Socket) : Bool :=
  socket.stage != .fresh && socket.address.port = wanted.port &&
    socket.address.host.overlaps wanted.host

/-- The ports that are given to sockets that ask for any. -/
def ephemeralPorts : List UInt16 :=
  (List.range 28232).map fun offset => (32768 + offset).toUInt16

/-- The rules of a machine that has every address and refuses only what is taken. -/
def SocketRules.standard : SocketRules where
  refusal? operation _ wanted sockets :=
    if operation = .bind && wanted.port != 0 && sockets.any (Socket.obstructs wanted) then
      some (.system addressInUse)
    else none
  freePort wanted sockets :=
    let free := fun port => !sockets.any (Socket.obstructs { wanted with port })
    (ephemeralPorts.find? free).getD 0

end PluggableHost.Net
