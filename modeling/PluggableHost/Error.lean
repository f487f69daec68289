import PluggableHost.Config.Problem
import PluggableHost.Lifecycle.State
import PluggableHost.Os.Failure
import PluggableHost.Registry.Directory

namespace PluggableHost

open PluggableHost.Config PluggableHost.Lifecycle PluggableHost.Registry

/-!
# Errors of a host

Every one of these ends a start. A hook that fails without asking for that, and
a registry that refuses to withdraw, are reported in the journal only.
-/

/-- A failure that a hook reports. -/
inductive HookFailure where
  /-- The hook failed; the others still run. -/
  | recoverable (reason : String)
  /-- The hook failed and asks for the start to be given up. -/
  | fatal (reason : String)
  deriving Repr, DecidableEq

/-- The failure of a hook in words. -/
def HookFailure.message : HookFailure → String
  | recoverable reason => "hook failed: " ++ reason
  | fatal reason => "unrecoverable hook failure: " ++ reason

/-- Why a host could not do as it was told. -/
inductive HostError where
  /-- Settings are missing or contradict each other. -/
  | configuration (problems : List Problem)
  /-- Key material could not be found, read or used. -/
  | keyMaterial (resource reason : String)
  /-- No provider has a root handler. -/
  | noRouteHandler
  /-- Endpoints are to be published, but there is no registry. -/
  | registryUnavailable
  /-- A listener could not be opened. -/
  | bind (address : String) (cause : Os.Failure)
  | hook (failure : HookFailure)
  | registry (refusal : Refusal)
  /-- The operation is not possible in the present state. -/
  | invalidState (operation : String) (state : State)
  deriving Repr, DecidableEq

namespace HostError

/-- The failure in words. -/
def message : HostError → String
  | configuration problems => "configuration error: " ++ Problem.describe problems
  | keyMaterial resource reason =>
      "key material error (" ++ resource ++ "): " ++ reason
  | noRouteHandler => "no route handler provider available"
  | registryUnavailable => "registry enabled but no registry instance is available"
  | bind address cause => "failed to bind " ++ address ++ ": " ++ cause.message
  | hook failure => failure.message
  | registry refusal => refusal.message
  | invalidState operation state => "cannot " ++ operation ++ " while " ++ state.label

/-- The words of the error behind this one, when there is one. -/
def source? : HostError → Option String
  | bind _ cause => some cause.message
  | _ => none

end HostError

end PluggableHost
