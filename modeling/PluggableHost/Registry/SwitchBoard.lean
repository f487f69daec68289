namespace PluggableHost.Registry

/-!
# Switches

Named switches, shared by parts of a process that do not know each other. Every
switch reads off until it is turned on.
-/

/-- The switch that is on while endpoints are published and listeners are open. -/
def heartbeat : String := "registry.heartbeat"

/-- A set of switches, kept as the names of those that are on. -/
structure SwitchBoard where
  lit : List String := []
  deriving Repr, DecidableEq

namespace SwitchBoard

/-- The switch with a name is on. -/
def isOn (board : SwitchBoard) (name : String) : Bool :=
  board.lit.contains name

/-- The board with one switch turned on or off. -/
def set (board : SwitchBoard) (name : String) (on : Bool) : SwitchBoard :=
  let others := board.lit.filter fun other => other != name
  { lit := if on then name :: others else others }

/-- A switch is where it was set. -/
@[simp] theorem isOn_set_self (board : SwitchBoard) (name : String) (on : Bool) :
    (board.set name on).isOn name = on := by
  cases on <;> simp [set, isOn]

/-- Setting a switch leaves the others alone. -/
theorem isOn_set_of_ne (board : SwitchBoard) {name other : String} (on : Bool)
    (different : other ≠ name) : (board.set name on).isOn other = board.isOn other := by
  cases on <;> simp [set, isOn, different]

end SwitchBoard

end PluggableHost.Registry
