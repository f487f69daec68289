import PluggableHost.Registry.Directory

namespace PluggableHost.Registry

/-!
# A registry that refuses ports

A registry without a memory, which refuses the endpoints on certain ports and
accepts all others.
-/

/-- Which ports are refused, and the reason that is given. -/
structure Refusals where
  onRegister : List UInt16 := []
  onUnregister : List UInt16 := []
  reason : String := ""
  deriving Repr, DecidableEq

/-- What a registry answers that refuses the endpoints of some ports. -/
def Refusals.answer (refusals : Refusals) (ports : List UInt16) (endpoint : Endpoint) :
    Except Refusal Unit :=
  if ports.contains endpoint.port then .error (.of endpoint refusals.reason) else .ok ()

/-- The registry that refuses as told. It leaves any state alone. -/
def Refusals.registry {ρ : Type} (refusals : Refusals) : RegistryClient ρ where
  register state endpoint := (refusals.answer refusals.onRegister endpoint, state)
  unregister state endpoint := (refusals.answer refusals.onUnregister endpoint, state)

end PluggableHost.Registry
