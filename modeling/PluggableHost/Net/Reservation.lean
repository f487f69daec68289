import PluggableHost.Config.Settings
import PluggableHost.Net.Socket

namespace PluggableHost.Net

open PluggableHost.Config PluggableHost.Os

/-!
# Reserved addresses

A machine is asked for every address that a host may listen on before the host
starts. What it said becomes the rules of the network that the host starts on:
what was refused is refused again, and what was given is given again.
-/

/-- What a machine said when it was asked for an address. -/
structure Reservation where
  wanted : SocketAddress
  /-- The port that was given, or why there is none. -/
  outcome : Except Failure UInt16

namespace Reservation

/-- What a machine said about an address, if it was asked. -/
def outcomeOf? (reservations : List Reservation) (wanted : SocketAddress) :
    Option (Except Failure UInt16) :=
  (reservations.find? fun reservation => reservation.wanted = wanted).map outcome

/-- Why an address is refused, if it was. -/
def refusalOf? (reservations : List Reservation) (wanted : SocketAddress) : Option Failure :=
  match outcomeOf? reservations wanted with
  | some (.error cause) => some cause
  | _ => none

/-- The port that was given for an address, if one was. -/
def portOf? (reservations : List Reservation) (wanted : SocketAddress) : Option UInt16 :=
  match outcomeOf? reservations wanted with
  | some (.ok port) => some port
  | _ => none

end Reservation

/-- The rules of a machine that stands by what it said. -/
def SocketRules.reserved (reservations : List Reservation) : SocketRules where
  refusal? operation settings wanted sockets :=
    (SocketRules.standard.refusal? operation settings wanted sockets).orElse fun _ =>
      if operation = .bind then Reservation.refusalOf? reservations wanted else none
  freePort wanted sockets :=
    (Reservation.portOf? reservations wanted).getD (SocketRules.standard.freePort wanted sockets)

/-- The addresses that a host may listen on, in the order in which it asks for them. -/
def wantedAddresses (settings : Settings) : List SocketAddress :=
  (settings.metricsAddress.toList ++ settings.enabledProtocols.map settings.listenAddress).filterMap
    SocketAddress.parse?

end PluggableHost.Net
