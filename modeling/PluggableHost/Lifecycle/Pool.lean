import PluggableHost.Lifecycle.Step

namespace PluggableHost.Lifecycle

open PluggableHost.Observability PluggableHost.Plugin

/-!
# Pools of jobs

The jobs of one host on one thread. They take turns in the order in which they
came; a job keeps its turn until it is over or has to wait. When all of them
wait, the requests in flight come to their end, and the turns begin again.
-/

/-- A host with its jobs and the journal of all of them. -/
structure Pool (σ ρ : Type) where
  host : Host σ ρ
  jobs : List (Job σ) := []
  journal : List Entry := []

variable {σ ρ : Type}

/-- More steps than a job takes between two waits. -/
def Blueprint.patience (blueprint : Blueprint σ ρ) (host : Host σ ρ) : Nat :=
  let hooks := blueprint.startupHooks ++ blueprint.shutdownHooks
  64 + 4 * host.registrar.tracked.length + 2 * hooks.length + (hooks.flatMap Hook.actions).length

/-- Let a job keep its turn until it is over or has to wait. -/
def Blueprint.goOn (blueprint : Blueprint σ ρ) : Nat → Turn σ ρ → Turn σ ρ
  | 0, turn => turn
  | patience + 1, turn =>
      match blueprint.step turn.host turn.next with
      | none => turn
      | some later =>
          blueprint.goOn patience
            { later with
              journal := turn.journal ++ later.journal
              spawned := turn.spawned ++ later.spawned }

namespace Pool

/-- A host that nobody has asked anything of. -/
def ofHost (host : Host σ ρ) : Pool σ ρ := { host }

/-- Give a turn to every job in order; jobs that this gives rise to come last. -/
def round (blueprint : Blueprint σ ρ) (pool : Pool σ ρ) : Pool σ ρ :=
  let turnOf (state : Pool σ ρ × List (Job σ)) (job : Job σ) : Pool σ ρ × List (Job σ) :=
    let (pool, spawned) := state
    let turn := blueprint.goOn (blueprint.patience pool.host) { host := pool.host, next := job }
    ({ host := turn.host, jobs := pool.jobs ++ [turn.next]
       journal := pool.journal ++ turn.journal },
      spawned ++ turn.spawned)
  let (after, spawned) := pool.jobs.foldl turnOf ({ pool with jobs := [] }, [])
  { after with jobs := after.jobs ++ spawned }

/-- The requests in flight come to their end. -/
def drained (pool : Pool σ ρ) : Pool σ ρ :=
  { pool with host := { pool.host with network := pool.host.network.drain } }

/-- Give turns until nothing changes any more. -/
def settle (blueprint : Blueprint σ ρ) : Nat → Pool σ ρ → Pool σ ρ
  | 0, pool => pool
  | rounds + 1, pool => settle blueprint rounds (pool.round blueprint).drained

/--
Add jobs, and let all jobs go on as far as they can. The new jobs come back
as they are then; of the others, those that are over are dropped.
-/
def call (blueprint : Blueprint σ ρ) (jobs : List (Job σ)) (pool : Pool σ ρ) :
    List (Job σ) × Pool σ ρ :=
  let older := pool.jobs.length
  let settled := settle blueprint 4 { pool with jobs := pool.jobs ++ jobs }
  let mine := (settled.jobs.drop older).take jobs.length
  (mine, { settled with jobs := settled.jobs.filter fun job => !job.isOver })

/-- Tell the process to end, and let all jobs go on as far as they can. -/
def signal (blueprint : Blueprint σ ρ) (pool : Pool σ ρ) : Pool σ ρ :=
  (call blueprint [] { pool with host := { pool.host with signalled := true } }).2

end Pool

end PluggableHost.Lifecycle
