import PluggableHost.Plugin.Chain
import PluggableHost.Plugin.Hook
import PluggableHost.Plugin.Locator
import PluggableHost.Registry.Directory

namespace PluggableHost.Plugin

open PluggableHost.Registry

/-!
# The capabilities of a host's plugins

A host finds its plugins by what they can do for it: answer requests, wrap what
answers them, run when it starts or stops, or keep its endpoints.
-/

/-- What a plugin can do for a host. -/
inductive Capability where
  | answer
  | wrap
  | runAtStartup
  | runAtShutdown
  | keepEndpoints
  deriving Repr, DecidableEq

/-- The type of the plugins with a capability. -/
abbrev PluginOf (σ ρ : Type) : Capability → Type
  | .answer => Provider σ
  | .wrap => Middleware σ
  | .runAtStartup => Hook
  | .runAtShutdown => Hook
  | .keepEndpoints => RegistryClient ρ

/-- The plugins of a host, by their capabilities. -/
abbrev Plugins (σ ρ : Type) := Locator Capability (PluginOf σ ρ)

end PluggableHost.Plugin
