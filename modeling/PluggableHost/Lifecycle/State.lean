namespace PluggableHost.Lifecycle

/-!
# Lifecycle states

A host is started once and stopped once. The allowed moves form a line from
`notStarted` to `stopped`, with two short cuts: a host that was never started
and a start that failed both go straight to `stopped`.
-/

/-- Where a host is in its life. -/
inductive State where
  | notStarted
  | starting
  | running
  | shuttingDown
  | stopped
  deriving Repr, DecidableEq

namespace State

/-- The state's name as metrics and events show it. -/
def name : State → String
  | notStarted => "not_started"
  | starting => "starting"
  | running => "running"
  | shuttingDown => "shutting_down"
  | stopped => "stopped"

/-- The state's name as descriptions of a host show it. -/
def label : State → String
  | notStarted => "NotStarted"
  | starting => "Starting"
  | running => "Running"
  | shuttingDown => "ShuttingDown"
  | stopped => "Stopped"

/-- The state that is never left. -/
def isTerminal : State → Bool
  | stopped => true
  | _ => false

/-- Every state, in the order of a host's life. -/
def all : List State := [notStarted, starting, running, shuttingDown, stopped]

/-- The moves that a host may make. -/
inductive Move : State → State → Prop where
  | start : Move notStarted starting
  | neverStarted : Move notStarted stopped
  | started : Move starting running
  | startFailed : Move starting stopped
  | shutDown : Move running shuttingDown
  | finish : Move shuttingDown stopped

/-- Nothing follows the terminal state. -/
theorem not_move_of_isTerminal {source target : State}
    (terminal : source.isTerminal = true) : ¬ Move source target := by
  intro move
  cases move <;> simp [isTerminal] at terminal

end State

end PluggableHost.Lifecycle
