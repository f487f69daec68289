import PluggableHost.Config.Settings
import PluggableHost.Http.Router
import PluggableHost.Observability.Journal
import PluggableHost.Plugin.Chain

namespace PluggableHost.Http

open PluggableHost.Config PluggableHost.Observability PluggableHost.Plugin

/-!
# The posture of a service

What every response of a host has in common, whatever its chain answers: one
`server` header, no advertisement of kept connections unless that is wanted,
and a stated length. The number of workers bounds how many requests are in the
chain at once, and must not exceed what a counter of permits can hold.

The setting `recordRequestStartTime` adds events with measured times around each
request. They change no response, and are left out here.
-/

/-- The greatest number of permits that can be counted. -/
def mostPermits : Nat := Nat.pow 2 61 - 1

/-- The posture that settings ask for. -/
structure Posture where
  /-- The value of the `server` header. -/
  server : String
  /-- Whether responses may advertise kept connections. -/
  keepsAlive : Bool
  /-- The number of requests that may be in the chain at once. -/
  workers : Nat
  deriving Repr, DecidableEq

/-- The value of the `server` header when the settings ask for one that cannot be sent. -/
def defaultServer : String := "service-host"

/-- The bytes that a header value may hold: no control characters but the tab. -/
def isHeaderByte (byte : UInt8) : Bool :=
  byte = 9 || (byte ≥ 32 && byte ≠ 127)

/-- The text can be sent as a header value. -/
def isHeaderValue (text : String) : Bool :=
  text.toUTF8.toList.all isHeaderByte

/-- The value of the `server` header, and the warning when it is not the one asked for. -/
def serverHeader (asked : String) : String × List Entry :=
  if isHeaderValue asked then (asked, [])
  else
    (defaultServer,
      [.log .warn .posture "Invalid serverString, using default"
        [("server_string", .text asked)]])

/-- The posture that settings ask for; there is none when the workers cannot be counted. -/
def Posture.ofSettings? (settings : Settings) : Option (Posture × List Entry) :=
  let workers := settings.workerThreads.toNat
  if workers > mostPermits then none
  else
    let (server, journal) := serverHeader settings.serverString
    some ({ server, keepsAlive := settings.alwaysSetKeepAlive, workers }, journal)

/-- A header value that advertises a kept connection and says nothing else. -/
def isKeepAlive (value : String) : Bool :=
  value.toLower = "keep-alive"

/-- Headers without the advertisement of a kept connection. -/
def withoutKeepAlive (headers : Headers) : Headers :=
  let headers := headers.erase "keep-alive"
  if (headers.first? "connection").any isKeepAlive then headers.erase "connection"
  else headers

/-- The response states the length of its body, or how it will be sent. -/
def statesLength (headers : Headers) : Bool :=
  headers.has "content-length" || headers.has "transfer-encoding"

/--
A response as the transport sends it: the length of the body is stated, and
there is no body where the method forbids one.
-/
def framed (method : String) (response : Response) : Response :=
  if method = "CONNECT" && 200 ≤ response.status && response.status < 300 then
    { response with body := "" }
  else
    let headers :=
      if statesLength response.headers then response.headers
      else response.headers.append "content-length" (bodyLength response.body)
    { response with headers, body := if method = "HEAD" then "" else response.body }

/-- The answer of the service when the chain answered a request. -/
def Posture.apply (posture : Posture) (method : String) (response : Response) : Response :=
  let headers :=
    if posture.keepsAlive then response.headers else withoutKeepAlive response.headers
  framed method { response with headers := headers.set "server" posture.server }

/-- The handler that is served: the chain in its posture. -/
def Posture.service {σ : Type} (posture : Posture) (chain : Chain σ) : Handler σ :=
  fun request => do
    let response ← chain.head request
    return posture.apply request.method response

end PluggableHost.Http
