import Mathlib.Algebra.Ring.Int.Defs
import Mathlib.Algebra.Ring.Nat
import Mathlib.Data.Option.Basic
import PluggableHost.Config.Setting

namespace PluggableHost.Config

open PluggableHost.Toml

/-!
# The values of settings

Every setting has a value of the kind that it asks for, and settings are known by
their values.  A document writes such a value as an item; where the item was
written is no part of the value.
-/

/-- The value of an item, whatever the place where it was written. -/
inductive Value where
  | flag (value : Bool)
  | text (value : String)
  | texts (values : List String)
  | number (value : Int)
  deriving Repr, DecidableEq

end PluggableHost.Config

namespace PluggableHost.Toml

open PluggableHost.Config

namespace Item

/-- The text of an item that is one. -/
def text? : Item → Option String
  | .text _ value => some value
  | _ => none

/-- The value of an item, if it is of a kind that some setting asks for. -/
def value? : Item → Option Value
  | .boolean _ value => some (.flag value)
  | .text _ value => some (.text value)
  | .integer _ value => some (.number value)
  | .array _ items => (items.mapM text?).map .texts
  | .tables elements => (elements.mapM text?).map .texts
  | _ => none

end Item

/-- The value under a name. -/
def Fields.value?
    (fields : Fields)
    (name : String) : Option Value :=
  (fields.find? name).bind Item.value?

end PluggableHost.Toml

namespace PluggableHost.Config

open PluggableHost.Toml

/-- What a setting asks for. -/
inductive Kind where
  | flag
  | text
  | texts
  /-- A number without a sign, in so many bits. -/
  | number (bits : Nat)
  deriving Repr, DecidableEq

/-- A value is of a kind, and in its range. -/
inductive Kind.Admits : Kind → Value → Prop where
  | flag (value : Bool) : Admits .flag (.flag value)
  | text (value : String) : Admits .text (.text value)
  | texts (values : List String) : Admits .texts (.texts values)
  | number
      {bits : Nat}
      {value : Int}
      (natural : 0 ≤ value)
      (small : value < 2 ^ bits) :
      Admits (.number bits) (.number value)

namespace Setting

/-- The kind of value that a setting asks for. -/
def kind : Setting → Kind
  | enableHttp | enableHttps | enableRegistry | enableTwoWayTls
  | alwaysSetKeepAlive | recordRequestStartTime => .flag
  | httpPort | httpsPort => .number 16
  | backlog | bufferSize => .number 32
  | ioThreads | workerThreads | shutdownGraceMs => .number 64
  | materialDirs => .texts
  | _ => .text

/-- A setting is known by its key, letter for letter. -/
theorem ofKey?_eq_some_iff
    {name : String}
    {setting : Setting} :
    ofKey? name = some setting ↔ name = setting.key := by
  constructor
  · intro found
    have same := List.find?_some found
    exact (of_decide_eq_true same).symm
  · rintro rfl
    cases setting <;>
      decide

/-- Different settings have different keys. -/
theorem key_injective
    {first second : Setting}
    (same : first.key = second.key) :
    first = second := by
  have found := ofKey?_eq_some_iff.mpr (rfl : first.key = first.key)
  rw [same, ofKey?_eq_some_iff.mpr rfl] at found
  exact (Option.some.inj found).symm

end Setting

/-- The value of a setting, unless it is unset. -/
def Settings.value?
    (settings : Settings) : Setting → Option Value
  | .enableHttp => some (.flag settings.enableHttp)
  | .enableHttps => some (.flag settings.enableHttps)
  | .httpPort => some (.number settings.httpPort.toNat)
  | .httpsPort => some (.number settings.httpsPort.toNat)
  | .ip => some (.text settings.ip)
  | .enableRegistry => some (.flag settings.enableRegistry)
  | .enableTwoWayTls => some (.flag settings.enableTwoWayTls)
  | .keystoreName => some (.text settings.keystoreName)
  | .keystorePass => some (.text settings.keystorePass)
  | .truststoreName => some (.text settings.truststoreName)
  | .truststorePass => some (.text settings.truststorePass)
  | .keyPass => some (.text settings.keyPass)
  | .serviceId => some (.text settings.serviceId)
  | .materialDirs => some (.texts settings.materialDirs)
  | .tlsProtocol => settings.tlsProtocol.map .text
  | .serverString => some (.text settings.serverString)
  | .ioThreads =>
      settings.ioThreads.map fun threads => .number threads.toNat
  | .workerThreads => some (.number settings.workerThreads.toNat)
  | .backlog => some (.number settings.backlog.toNat)
  | .bufferSize => some (.number settings.bufferSize.toNat)
  | .alwaysSetKeepAlive => some (.flag settings.alwaysSetKeepAlive)
  | .recordRequestStartTime =>
      some (.flag settings.recordRequestStartTime)
  | .shutdownGraceMs => some (.number settings.shutdownGraceMs.toNat)
  | .logLevel => some (.text settings.logLevel)
  | .logFormat => some (.text settings.logFormat)
  | .metricsAddress => settings.metricsAddress.map .text

/-- A number that fits into so many bits is of their kind. -/
theorem admits_natural
    {natural bits : Nat}
    (small : natural < 2 ^ bits) :
    (Kind.number bits).Admits (.number natural) :=
  .number (Int.natCast_nonneg natural) (by exact_mod_cast small)

/-- A setting has a value of its kind, and in its range. -/
theorem Settings.admits_of_value?
    {settings : Settings}
    {setting : Setting}
    {value : Value}
    (found : settings.value? setting = some value) :
    setting.kind.Admits value := by
  cases setting
  case enableHttp | enableHttps | enableRegistry | enableTwoWayTls
    | alwaysSetKeepAlive | recordRequestStartTime =>
    cases found
    exact .flag _
  case httpPort | httpsPort =>
    cases found
    exact admits_natural (UInt16.toNat_lt _)
  case backlog | bufferSize =>
    cases found
    exact admits_natural (UInt32.toNat_lt _)
  case workerThreads | shutdownGraceMs =>
    cases found
    exact admits_natural (UInt64.toNat_lt _)
  case ioThreads =>
    obtain ⟨threads, -, rfl⟩ := Option.map_eq_some_iff.mp found
    exact admits_natural (UInt64.toNat_lt threads)
  case materialDirs =>
    cases found
    exact .texts _
  case tlsProtocol | metricsAddress =>
    obtain ⟨text, -, rfl⟩ := Option.map_eq_some_iff.mp found
    exact .text text
  all_goals
    cases found
    exact .text _

/-- Equal values are of equal numbers. -/
theorem number_inj
    {mine other : Nat}
    (same : Value.number mine = .number other) :
    mine = other :=
  Int.ofNat.inj (Value.number.inj same)

/-- Settings are known by their values. -/
theorem Settings.ext_value?
    {first second : Settings}
    (same : ∀ setting, first.value? setting = second.value? setting) :
    first = second := by
  have ioThreads : first.ioThreads = second.ioThreads :=
    Option.map_injective
      (fun mine other met => UInt64.toNat_inj.mp (number_inj met))
      (same .ioThreads)
  have tlsProtocol : first.tlsProtocol = second.tlsProtocol :=
    Option.map_injective (fun mine other => Value.text.inj)
      (same .tlsProtocol)
  have metricsAddress : first.metricsAddress = second.metricsAddress :=
    Option.map_injective (fun mine other => Value.text.inj)
      (same .metricsAddress)
  have flags {mine other : Bool}
      (here : some (Value.flag mine) = some (.flag other)) :
      mine = other :=
    Value.flag.inj (Option.some.inj here)
  have texts {mine other : String}
      (here : some (Value.text mine) = some (.text other)) :
      mine = other :=
    Value.text.inj (Option.some.inj here)
  have numbers {mine other : Nat}
      (here : some (Value.number mine) = some (.number other)) :
      mine = other :=
    number_inj (Option.some.inj here)
  obtain ⟨⟩ := first
  obtain ⟨⟩ := second
  rw [Settings.mk.injEq]
  exact
    ⟨flags (same .enableHttp), flags (same .enableHttps),
      UInt16.toNat_inj.mp (numbers (same .httpPort)),
      UInt16.toNat_inj.mp (numbers (same .httpsPort)),
      texts (same .ip), flags (same .enableRegistry),
      flags (same .enableTwoWayTls), texts (same .keystoreName),
      texts (same .keystorePass), texts (same .truststoreName),
      texts (same .truststorePass), texts (same .keyPass),
      texts (same .serviceId),
      Value.texts.inj (Option.some.inj (same .materialDirs)), tlsProtocol,
      texts (same .serverString), ioThreads,
      UInt64.toNat_inj.mp (numbers (same .workerThreads)),
      UInt32.toNat_inj.mp (numbers (same .backlog)),
      UInt32.toNat_inj.mp (numbers (same .bufferSize)),
      flags (same .alwaysSetKeepAlive),
      flags (same .recordRequestStartTime),
      UInt64.toNat_inj.mp (numbers (same .shutdownGraceMs)),
      texts (same .logLevel), texts (same .logFormat), metricsAddress⟩

end PluggableHost.Config
