namespace PluggableHost.Net

/-!
# Transport protocols

A host listens in the clear, over TLS, or both. Each protocol has one name, one
URL scheme and one port that a URL may leave out.
-/

/-- The transport of a listener or of a published endpoint. -/
inductive Protocol where
  | plain
  | tls
  deriving Repr, DecidableEq

namespace Protocol

/-- The protocol's name as events show it. -/
def name : Protocol → String
  | plain => "plain"
  | tls => "tls"

/-- The protocol's name as a listing of listeners shows it. -/
def label : Protocol → String
  | plain => "Plain"
  | tls => "Tls"

/-- The scheme of the protocol's URLs. -/
def scheme : Protocol → String
  | plain => "http"
  | tls => "https"

/-- The port that URLs of the scheme leave out. -/
def defaultPort : Protocol → UInt16
  | plain => 80
  | tls => 443

end Protocol

end PluggableHost.Net
