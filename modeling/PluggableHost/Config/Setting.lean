import PluggableHost.Config.Settings
import PluggableHost.Toml.Item
import PluggableHost.Text.Quoted
import PluggableHost.Decimal.Shortest

namespace PluggableHost.Config

open PluggableHost.Toml

/-!
# Settings in a document

Every setting has a key and reads one item of a document. Items under other
keys do not matter. The first item that is not what its key asks for is
reported, with the place where it was written.
-/

/-- The settings that a document may hold. -/
inductive Setting where
  | enableHttp
  | enableHttps
  | httpPort
  | httpsPort
  | ip
  | enableRegistry
  | enableTwoWayTls
  | keystoreName
  | keystorePass
  | truststoreName
  | truststorePass
  | keyPass
  | serviceId
  | materialDirs
  | tlsProtocol
  | serverString
  | ioThreads
  | workerThreads
  | backlog
  | bufferSize
  | alwaysSetKeepAlive
  | recordRequestStartTime
  | shutdownGraceMs
  | logLevel
  | logFormat
  | metricsAddress
  deriving Repr, DecidableEq

/-- An item that is not what its key asks for. -/
inductive Mismatch where
  | kind (found expected : String)
  | range (found : Int) (expected : String)
  deriving Repr, DecidableEq

/-- The mismatch in words. -/
def Mismatch.message : Mismatch → String
  | kind found expected => "invalid type: " ++ found ++ ", expected " ++ expected
  | range found expected =>
      "invalid value: integer \x60" ++ toString found ++ "\x60, expected " ++ expected

/-- A mismatch and the place of the item, if it has one. -/
structure Fault where
  mismatch : Mismatch
  span : Option Span
  deriving Repr, DecidableEq

/-- The kind of an item in words, with its value if it is simple. -/
def found : Item → String
  | .text _ value => "string " ++ Text.quoted value
  | .integer _ value => "integer \x60" ++ toString value ++ "\x60"
  | .float _ value => "floating point \x60" ++ value.text ++ "\x60"
  | .boolean _ value => "boolean \x60" ++ (if value then "true" else "false") ++ "\x60"
  | .moment _ => "map"
  | .array _ _ => "sequence"
  | .table _ _ _ => "map"
  | .tables _ => "sequence"

/-- The fault that an item is of another kind than expected. -/
def wrongKind (item : Item) (expected : String) : Fault :=
  ⟨.kind (found item) expected, item.span?⟩

/-- Read a truth value. -/
def readFlag : Item → Except Fault Bool
  | .boolean _ value => .ok value
  | item => .error (wrongKind item "a boolean")

/-- Read a text. -/
def readText : Item → Except Fault String
  | .text _ value => .ok value
  | item => .error (wrongKind item "a string")

/-- Read a list of texts. -/
def readTexts : Item → Except Fault (List String)
  | .array _ items => items.mapM readText
  | .tables elements => elements.mapM readText
  | item => .error (wrongKind item "a sequence")

/-- Read a number from zero up to a bound. -/
def readNatural (bound : Nat) (expected : String) : Item → Except Fault Nat
  | .integer span value =>
      if 0 ≤ value && value < bound then .ok value.toNat
      else .error ⟨.range value expected, some span⟩
  | item => .error (wrongKind item expected)

/-- Read a number of sixteen bits. -/
def readWord16 (item : Item) : Except Fault UInt16 :=
  (readNatural (Nat.pow 2 16) "u16" item).map Nat.toUInt16

/-- Read a number of thirty-two bits. -/
def readWord32 (item : Item) : Except Fault UInt32 :=
  (readNatural (Nat.pow 2 32) "u32" item).map Nat.toUInt32

/-- Read a number of sixty-four bits. -/
def readWord64 (expected : String) (item : Item) : Except Fault UInt64 :=
  (readNatural (Nat.pow 2 64) expected item).map Nat.toUInt64

namespace Setting

/-- Every setting, in the order of the settings' structure. -/
def all : List Setting :=
  [.enableHttp, .enableHttps, .httpPort, .httpsPort, .ip, .enableRegistry, .enableTwoWayTls,
    .keystoreName, .keystorePass, .truststoreName, .truststorePass, .keyPass, .serviceId,
    .materialDirs, .tlsProtocol, .serverString, .ioThreads, .workerThreads, .backlog,
    .bufferSize, .alwaysSetKeepAlive, .recordRequestStartTime, .shutdownGraceMs, .logLevel,
    .logFormat, .metricsAddress]

/-- The key of the setting in a document. -/
def key : Setting → String
  | enableHttp => "enableHttp"
  | enableHttps => "enableHttps"
  | httpPort => "httpPort"
  | httpsPort => "httpsPort"
  | ip => "ip"
  | enableRegistry => "enableRegistry"
  | enableTwoWayTls => "enableTwoWayTls"
  | keystoreName => "keystoreName"
  | keystorePass => "keystorePass"
  | truststoreName => "truststoreName"
  | truststorePass => "truststorePass"
  | keyPass => "keyPass"
  | serviceId => "serviceId"
  | materialDirs => "materialDirs"
  | tlsProtocol => "tlsProtocol"
  | serverString => "serverString"
  | ioThreads => "ioThreads"
  | workerThreads => "workerThreads"
  | backlog => "backlog"
  | bufferSize => "bufferSize"
  | alwaysSetKeepAlive => "alwaysSetKeepAlive"
  | recordRequestStartTime => "recordRequestStartTime"
  | shutdownGraceMs => "shutdownGraceMs"
  | logLevel => "logLevel"
  | logFormat => "logFormat"
  | metricsAddress => "metricsAddress"

/-- The setting with a key. -/
def ofKey? (key : String) : Option Setting :=
  all.find? fun setting => setting.key = key

/-- Read the setting's item: how it changes the settings. -/
def read (setting : Setting) (item : Item) : Except Fault (Settings → Settings) :=
  match setting with
  | enableHttp => do
      let value ← readFlag item
      return fun settings => { settings with enableHttp := value }
  | enableHttps => do
      let value ← readFlag item
      return fun settings => { settings with enableHttps := value }
  | httpPort => do
      let value ← readWord16 item
      return fun settings => { settings with httpPort := value }
  | httpsPort => do
      let value ← readWord16 item
      return fun settings => { settings with httpsPort := value }
  | ip => do
      let value ← readText item
      return fun settings => { settings with ip := value }
  | enableRegistry => do
      let value ← readFlag item
      return fun settings => { settings with enableRegistry := value }
  | enableTwoWayTls => do
      let value ← readFlag item
      return fun settings => { settings with enableTwoWayTls := value }
  | keystoreName => do
      let value ← readText item
      return fun settings => { settings with keystoreName := value }
  | keystorePass => do
      let value ← readText item
      return fun settings => { settings with keystorePass := value }
  | truststoreName => do
      let value ← readText item
      return fun settings => { settings with truststoreName := value }
  | truststorePass => do
      let value ← readText item
      return fun settings => { settings with truststorePass := value }
  | keyPass => do
      let value ← readText item
      return fun settings => { settings with keyPass := value }
  | serviceId => do
      let value ← readText item
      return fun settings => { settings with serviceId := value }
  | materialDirs => do
      let value ← readTexts item
      return fun settings => { settings with materialDirs := value }
  | tlsProtocol => do
      let value ← readText item
      return fun settings => { settings with tlsProtocol := some value }
  | serverString => do
      let value ← readText item
      return fun settings => { settings with serverString := value }
  | ioThreads => do
      let value ← readWord64 "usize" item
      return fun settings => { settings with ioThreads := some value }
  | workerThreads => do
      let value ← readWord64 "usize" item
      return fun settings => { settings with workerThreads := value }
  | backlog => do
      let value ← readWord32 item
      return fun settings => { settings with backlog := value }
  | bufferSize => do
      let value ← readWord32 item
      return fun settings => { settings with bufferSize := value }
  | alwaysSetKeepAlive => do
      let value ← readFlag item
      return fun settings => { settings with alwaysSetKeepAlive := value }
  | recordRequestStartTime => do
      let value ← readFlag item
      return fun settings => { settings with recordRequestStartTime := value }
  | shutdownGraceMs => do
      let value ← readWord64 "u64" item
      return fun settings => { settings with shutdownGraceMs := value }
  | logLevel => do
      let value ← readText item
      return fun settings => { settings with logLevel := value }
  | logFormat => do
      let value ← readText item
      return fun settings => { settings with logFormat := value }
  | metricsAddress => do
      let value ← readText item
      return fun settings => { settings with metricsAddress := some value }

/-- The item that writes the setting's value, unless it is unset. -/
def item? (settings : Settings) (setting : Setting) : Option Item :=
  match setting with
  | enableHttp => some (flag settings.enableHttp)
  | enableHttps => some (flag settings.enableHttps)
  | httpPort => some (number settings.httpPort.toNat)
  | httpsPort => some (number settings.httpsPort.toNat)
  | ip => some (text settings.ip)
  | enableRegistry => some (flag settings.enableRegistry)
  | enableTwoWayTls => some (flag settings.enableTwoWayTls)
  | keystoreName => some (text settings.keystoreName)
  | keystorePass => some (text settings.keystorePass)
  | truststoreName => some (text settings.truststoreName)
  | truststorePass => some (text settings.truststorePass)
  | keyPass => some (text settings.keyPass)
  | serviceId => some (text settings.serviceId)
  | materialDirs => some (.array nowhere (settings.materialDirs.map text))
  | tlsProtocol => settings.tlsProtocol.map text
  | serverString => some (text settings.serverString)
  | ioThreads => settings.ioThreads.map fun value => number value.toNat
  | workerThreads => some (number settings.workerThreads.toNat)
  | backlog => some (number settings.backlog.toNat)
  | bufferSize => some (number settings.bufferSize.toNat)
  | alwaysSetKeepAlive => some (flag settings.alwaysSetKeepAlive)
  | recordRequestStartTime => some (flag settings.recordRequestStartTime)
  | shutdownGraceMs => some (number settings.shutdownGraceMs.toNat)
  | logLevel => some (text settings.logLevel)
  | logFormat => some (text settings.logFormat)
  | metricsAddress => settings.metricsAddress.map text
where
  nowhere : Span := ⟨0, 0⟩
  flag (value : Bool) : Item := .boolean nowhere value
  text (value : String) : Item := .text nowhere value
  number (value : Nat) : Item := .integer nowhere value

end Setting

namespace Settings

/-- The settings after one entry of a document. -/
def enter (settings : Settings) (entry : Key × Item) : Except Fault Settings :=
  match Setting.ofKey? entry.1.name with
  | none => .ok settings
  | some setting =>
      match setting.read entry.2 with
      | .ok change => .ok (change settings)
      | .error fault => .error { fault with span := some (fault.span.getD entry.1.span) }

/-- The settings of a document: defaults, except where an entry says otherwise. -/
def ofFields (fields : Fields) : Except Fault Settings :=
  fields.foldlM enter {}

end Settings

end PluggableHost.Config
