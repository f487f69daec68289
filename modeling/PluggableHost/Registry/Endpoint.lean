import PluggableHost.Net.Url.Reader

namespace PluggableHost.Registry

open PluggableHost.Net

/-!
# Published endpoints

An endpoint is one reachable address of a service, as a directory lists it. It
is shown as its URL, whose path is the service's identifier.
-/

/-- One reachable address of a service. -/
structure Endpoint where
  protocol : Protocol
  host : IpAddress
  port : UInt16
  serviceId : String
  deriving Repr, DecidableEq

namespace Endpoint

/-- The socket that the endpoint is reached on. -/
def socket (endpoint : Endpoint) : SocketAddress :=
  { host := endpoint.host, port := endpoint.port }

/-- The URL of an endpoint. -/
def url (endpoint : Endpoint) : Url :=
  Url.ofSocket endpoint.protocol endpoint.host endpoint.port endpoint.serviceId

/-- The endpoint as a text, which is its URL. -/
def text (endpoint : Endpoint) : String :=
  endpoint.url.text

/-- The scheme and the socket, which a URL is read from before it gets its path. -/
def base (endpoint : Endpoint) : String :=
  endpoint.protocol.scheme ++ "://" ++ endpoint.socket.text

/-- The URL, if the scheme and the socket make one. -/
def location? (toAscii : String → Option String) (endpoint : Endpoint) : Option Location :=
  (Location.read? toAscii endpoint.base).map fun location =>
    location.withPath endpoint.serviceId

/-- How the endpoint is shown: as its URL, or without its identifier where there is none. -/
def shown (toAscii : String → Option String) (endpoint : Endpoint) : String :=
  match endpoint.location? toAscii with
  | some location => location.text
  | none => endpoint.base

end Endpoint

end PluggableHost.Registry
