import PluggableHost.Registry.Endpoint

namespace PluggableHost.Registry

/-!
# Directories of endpoints

A registry takes endpoints in and gives them back, or refuses. The directory is
the registry kept in memory: one bucket of endpoints for each service, in the
order in which they were registered, each endpoint once.
-/

/-- Why a registry refused an endpoint. -/
structure Refusal where
  endpoint : String
  reason : String
  deriving Repr, DecidableEq

/-- The refusal in words. -/
def Refusal.message (refusal : Refusal) : String :=
  "registry operation failed for " ++ refusal.endpoint ++ ": " ++ refusal.reason

/-- The refusal of an endpoint for a reason. -/
def Refusal.of (endpoint : Endpoint) (reason : String) : Refusal :=
  ⟨endpoint.text, reason⟩

/-- An external directory of endpoints with a state of its own. -/
structure RegistryClient (ρ : Type) where
  register : ρ → Endpoint → Except Refusal Unit × ρ
  unregister : ρ → Endpoint → Except Refusal Unit × ρ

/-- The endpoints of every service that has any. -/
structure Directory where
  buckets : List (String × List Endpoint) := []
  deriving Repr, DecidableEq

namespace Directory

/-- The endpoints of a service, in order of registration. -/
def lookup (directory : Directory) (serviceId : String) : List Endpoint :=
  (directory.buckets.lookup serviceId).getD []

/-- The number of endpoints in the directory. -/
def size (directory : Directory) : Nat :=
  (directory.buckets.flatMap Prod.snd).length

/-- Change the bucket of a service, which is empty if it did not exist. -/
def updateBucket (serviceId : String) (change : List Endpoint → List Endpoint) :
    List (String × List Endpoint) → List (String × List Endpoint)
  | [] => [(serviceId, change [])]
  | (name, endpoints) :: rest =>
      if name = serviceId then (name, change endpoints) :: rest
      else (name, endpoints) :: updateBucket serviceId change rest

/-- Add an endpoint at the end of its bucket, unless it is there. -/
def register (directory : Directory) (endpoint : Endpoint) : Directory :=
  let added := fun endpoints =>
    if endpoints.contains endpoint then endpoints else endpoints ++ [endpoint]
  { buckets := updateBucket endpoint.serviceId added directory.buckets }

/-- The first half of unregistering: take the endpoint out of its bucket. -/
def withdraw (directory : Directory) (endpoint : Endpoint) : Directory :=
  { buckets := directory.buckets.map fun (name, endpoints) =>
      if name = endpoint.serviceId then
        (name, endpoints.filter fun other => other != endpoint)
      else (name, endpoints) }

/-- The second half of unregistering: drop the bucket if it is empty by now. -/
def dropIfEmpty (directory : Directory) (serviceId : String) : Directory :=
  { buckets := directory.buckets.filter fun (name, endpoints) =>
      !(name = serviceId && endpoints.isEmpty) }

/-- Take an endpoint out, and its bucket with it when that leaves it empty. -/
def unregister (directory : Directory) (endpoint : Endpoint) : Directory :=
  (directory.withdraw endpoint).dropIfEmpty endpoint.serviceId

/-- The directory as a registry, which refuses nothing. -/
def registry : RegistryClient Directory where
  register directory endpoint := (.ok (), directory.register endpoint)
  unregister directory endpoint := (.ok (), directory.unregister endpoint)

end Directory

end PluggableHost.Registry
