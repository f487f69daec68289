import PluggableHost.Net.Address.Reader
import PluggableHost.Net.Protocol

namespace PluggableHost.Config

open PluggableHost.Net

/-!
# Settings

Everything an operator may choose. Each setting has a default, so an empty
configuration document is a valid one.
-/

/-- The settings of a host. -/
structure Settings where
  /-- Open a listener in the clear on `httpPort`. -/
  enableHttp : Bool := true
  /-- Open a TLS listener on `httpsPort`. -/
  enableHttps : Bool := false
  httpPort : UInt16 := 8080
  httpsPort : UInt16 := 8443
  /-- The address that both listeners bind. -/
  ip : String := "0.0.0.0"
  /-- Publish endpoints in the directory at startup. -/
  enableRegistry : Bool := false
  /-- Require client certificates and verify them against the truststore. -/
  enableTwoWayTls : Bool := false
  keystoreName : String := "server.keystore.pem"
  keystorePass : String := ""
  truststoreName : String := "server.truststore.pem"
  truststorePass : String := ""
  keyPass : String := ""
  /-- The identifier published with every endpoint. -/
  serviceId : String := ""
  /-- The directories searched for key material, in order. -/
  materialDirs : List String := ["config", "."]
  /-- The only TLS version offered; both are offered when there is none. -/
  tlsProtocol : Option String := none
  /-- The value of the `server` header of every response. -/
  serverString : String := "service-host"
  /-- Threads for socket work; twice the machine's parallelism when there is none. -/
  ioThreads : Option UInt64 := none
  /-- The number of requests that may be in the chain at once. -/
  workerThreads : UInt64 := 200
  backlog : UInt32 := 10000
  bufferSize : UInt32 := 16384
  /-- Leave `connection: keep-alive` in responses. -/
  alwaysSetKeepAlive : Bool := false
  /-- Record when each request started. -/
  recordRequestStartTime : Bool := false
  /-- How long requests in flight may take when listeners are stopped. -/
  shutdownGraceMs : UInt64 := 5000
  logLevel : String := "info"
  logFormat : String := "pretty"
  /-- Where metrics are served; nowhere when there is none. -/
  metricsAddress : Option String := none
  deriving Repr, DecidableEq

namespace Settings

/-- Whether a protocol is listened on. -/
def enables (settings : Settings) : Protocol → Bool
  | .plain => settings.enableHttp
  | .tls => settings.enableHttps

/-- The port on which the listener of a protocol opens. -/
def port (settings : Settings) : Protocol → UInt16
  | .plain => settings.httpPort
  | .tls => settings.httpsPort

/-- The enabled protocols, the one in the clear first. -/
def enabledProtocols (settings : Settings) : List Protocol :=
  [Protocol.plain, Protocol.tls].filter settings.enables

/-- The address to bind with a port: canonical when `ip` is an address, else as it stands. -/
def addressText (settings : Settings) (port : UInt16) : String :=
  match IpAddress.parse? settings.ip with
  | some host => SocketAddress.text { host, port }
  | none => settings.ip ++ ":" ++ toString port.toNat

/-- The address that a protocol's listener binds. -/
def listenAddress (settings : Settings) (protocol : Protocol) : String :=
  settings.addressText (settings.port protocol)

/-- A protocol is in the list of enabled ones exactly when it is enabled. -/
@[simp] theorem mem_enabledProtocols {settings : Settings} {protocol : Protocol} :
    protocol ∈ settings.enabledProtocols ↔ settings.enables protocol = true := by
  cases protocol <;> simp [enabledProtocols]

end Settings

end PluggableHost.Config
