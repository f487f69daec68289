namespace PluggableHost.Plugin

/-!
# Finding plugins by capability

A locator keeps the services provided for each capability. The services of one
capability have one type, which depends on the capability; a slot carries its
capability with it, and is read and written only through a check that the
capability is the expected one.
-/

/-- The services of one capability. -/
structure Slot (κ : Type) (Service : κ → Type) where
  capability : κ
  services : List (Service capability)

/-- Slots by capability, in the order in which they were first used. -/
structure Locator (κ : Type) (Service : κ → Type) where
  slots : List (κ × Slot κ Service) := []

variable {κ : Type} {Service : κ → Type} [DecidableEq κ]

/-- The services in a slot, if they are of the expected capability. -/
def Slot.open? (expected : κ) (slot : Slot κ Service) : Option (List (Service expected)) :=
  if same : slot.capability = expected then some (same ▸ slot.services) else none

/-- Add a service to a slot of its capability; a slot of another one stays as it is. -/
def Slot.push (capability : κ) (service : Service capability) (slot : Slot κ Service) :
    Slot κ Service :=
  match slot.open? capability with
  | some services => ⟨capability, services ++ [service]⟩
  | none => slot

/-- Change the slot under a key, which starts out empty. -/
def updateSlot (key : κ) (change : Slot κ Service → Slot κ Service) :
    List (κ × Slot κ Service) → List (κ × Slot κ Service)
  | [] => [(key, change ⟨key, []⟩)]
  | (other, slot) :: rest =>
      if other = key then (other, change slot) :: rest
      else (other, slot) :: updateSlot key change rest

namespace Locator

/-- The slot of a capability, if something was provided for it. -/
def slot? (locator : Locator κ Service) (capability : κ) : Option (Slot κ Service) :=
  (locator.slots.find? fun entry => entry.1 = capability).map Prod.snd

/-- Provide one more service of a capability. -/
def provide (locator : Locator κ Service) (capability : κ) (service : Service capability) :
    Locator κ Service :=
  { slots := updateSlot capability (Slot.push capability service) locator.slots }

/-- Provide several services of a capability. -/
def provideAll (locator : Locator κ Service) (capability : κ)
    (services : List (Service capability)) : Locator κ Service :=
  services.foldl (fun current service => current.provide capability service) locator

/-- The services of a capability, in the order in which they were provided. -/
def all (locator : Locator κ Service) (capability : κ) : List (Service capability) :=
  ((locator.slot? capability).bind (Slot.open? capability)).getD []

/-- The service of a capability that was provided first. -/
def first? (locator : Locator κ Service) (capability : κ) : Option (Service capability) :=
  ((locator.slot? capability).bind (Slot.open? capability)).bind List.head?

/-- The number of capabilities for which something was provided. -/
def size (locator : Locator κ Service) : Nat := locator.slots.length

omit [DecidableEq κ] in

/-- The locator as a description shows it. -/
def text (locator : Locator κ Service) : String :=
  "ServiceLocator \x7b capabilities: " ++ toString locator.size ++ " \x7d"

@[simp] theorem all_empty (capability : κ) :
    ({} : Locator κ Service).all capability = [] := rfl

end Locator

end PluggableHost.Plugin
