import PluggableHost.Config.Settings
import PluggableHost.Text.Blank
import PluggableHost.Text.Quoted

namespace PluggableHost.Config

open PluggableHost.Net

/-!
# Problems with settings

Settings that can be read may still contradict each other. All problems are
found in one pass, in a fixed order, and each names the setting to change.
-/

/-- The TLS versions that may be asked for. -/
def tlsVersions : List String := ["TLSv1.2", "TLSv1.3"]

/-- The settings that must not be zero, in the order in which they are checked. -/
inductive Capacity where
  | ioThreads
  | workerThreads
  | backlog
  | bufferSize
  deriving Repr, DecidableEq

/-- The key of the capacity's setting. -/
def Capacity.key : Capacity → String
  | ioThreads => "ioThreads"
  | workerThreads => "workerThreads"
  | backlog => "backlog"
  | bufferSize => "bufferSize"

/-- The value of a capacity; an unset number of threads depends on the machine and is not zero. -/
def Capacity.isZero (settings : Settings) : Capacity → Bool
  | ioThreads => settings.ioThreads == some 0
  | workerThreads => settings.workerThreads == 0
  | backlog => settings.backlog == 0
  | bufferSize => settings.bufferSize == 0

/-- One problem with the settings. -/
inductive Problem where
  | notAnAddress (text : String)
  | zeroPort (protocol : Protocol)
  | keystoreMissing
  | truststoreMissing
  | samePort (port : UInt16)
  | serviceIdMissing
  | unknownTlsVersion (version : String)
  | zeroCapacity (capacity : Capacity)
  /-- The TLS context asked for a version that is not offered. -/
  | tlsVersionRefused (version : String)
  /-- A problem found elsewhere, stated in words. -/
  | stated (field message : String)
  deriving Repr, DecidableEq

namespace Problem

/-- The key of the setting that the problem is about. -/
def field : Problem → String
  | notAnAddress _ => "ip"
  | zeroPort .plain => "httpPort"
  | zeroPort .tls => "httpsPort"
  | keystoreMissing => "keystoreName"
  | truststoreMissing => "truststoreName"
  | samePort _ => "httpsPort"
  | serviceIdMissing => "serviceId"
  | unknownTlsVersion _ => "tlsProtocol"
  | zeroCapacity capacity => capacity.key
  | tlsVersionRefused _ => "tlsProtocol"
  | stated field _ => field

/-- The problem in words, without its key. -/
def message : Problem → String
  | notAnAddress text => "'" ++ text ++ "' is not an IP address"
  | zeroPort .plain => "must be non-zero when enableHttp is set"
  | zeroPort .tls => "must be non-zero when enableHttps is set"
  | keystoreMissing => "required when enableHttps is set"
  | truststoreMissing => "required when enableTwoWayTls is set"
  | samePort port => "conflicts with httpPort (" ++ toString port.toNat ++ ")"
  | serviceIdMissing => "required when enableRegistry is set"
  | unknownTlsVersion version =>
      "unsupported protocol '" ++ version ++ "', expected one of " ++
        Text.quotedList tlsVersions
  | zeroCapacity _ => "must be greater than zero"
  | tlsVersionRefused version => "unsupported protocol '" ++ version ++ "'"
  | stated _ message => message

/-- The problem in words. -/
def text (problem : Problem) : String :=
  problem.field ++ ": " ++ problem.message

/-- Several problems on one line. -/
def describe (problems : List Problem) : String :=
  String.intercalate ", " (problems.map text)

end Problem

/-- The problem alone when the condition holds, else none. -/
def Problem.when (condition : Bool) (problem : Problem) : List Problem :=
  if condition then [problem] else []

namespace Settings

/-- Every problem, in the order in which they are reported. -/
def problems (settings : Settings) : List Problem :=
  Problem.when (IpAddress.parse? settings.ip).isNone (.notAnAddress settings.ip) ++
  Problem.when (settings.enableHttp && settings.httpPort == 0) (.zeroPort .plain) ++
  Problem.when (settings.enableHttps && settings.httpsPort == 0) (.zeroPort .tls) ++
  Problem.when (settings.enableHttps && Text.allBlank settings.keystoreName) .keystoreMissing ++
  Problem.when (settings.enableHttps && settings.enableTwoWayTls &&
    Text.allBlank settings.truststoreName) .truststoreMissing ++
  Problem.when (settings.enableHttp && settings.enableHttps &&
    settings.httpPort == settings.httpsPort) (.samePort settings.httpPort) ++
  Problem.when (settings.enableRegistry && Text.allBlank settings.serviceId) .serviceIdMissing ++
  (match settings.tlsProtocol with
    | some version => Problem.when (!tlsVersions.contains version) (.unknownTlsVersion version)
    | none => []) ++
  ([Capacity.ioThreads, .workerThreads, .backlog, .bufferSize].filter
    (Capacity.isZero settings)).map Problem.zeroCapacity

/-- Settings without problems can be used. -/
def isValid (settings : Settings) : Bool := settings.problems.isEmpty

end Settings

end PluggableHost.Config
