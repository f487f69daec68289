import PluggableHost.Lifecycle.Pool

namespace PluggableHost.Lifecycle

open PluggableHost.Observability

/-!
# A job that keeps its turn

A job that is alone goes on from step to step.  What a number of its steps comes
to is stated here without the fuel: the steps lead from a host and a job to a
turn, wherever they are taken from and whatever is left of the fuel.
-/

variable {σ ρ : Type}

namespace Turn

/-- Two turns of one job as one: the later host, and the journals of both. -/
def followedBy
    (earlier later : Turn σ ρ) : Turn σ ρ :=
  { later with
    journal := earlier.journal ++ later.journal
    spawned := earlier.spawned ++ later.spawned }

/-- Three turns are one in the same way from either side. -/
theorem followedBy_assoc
    (first second third : Turn σ ρ) :
    (first.followedBy second).followedBy third =
      first.followedBy (second.followedBy third) := by
  simp [followedBy, List.append_assoc]

@[simp] theorem host_followedBy
    (earlier later : Turn σ ρ) :
    (earlier.followedBy later).host = later.host := rfl

@[simp] theorem next_followedBy
    (earlier later : Turn σ ρ) :
    (earlier.followedBy later).next = later.next := rfl

@[simp] theorem journal_followedBy
    (earlier later : Turn σ ρ) :
    (earlier.followedBy later).journal =
      earlier.journal ++ later.journal := rfl

@[simp] theorem spawned_followedBy
    (earlier later : Turn σ ρ) :
    (earlier.followedBy later).spawned =
      earlier.spawned ++ later.spawned := rfl

end Turn

namespace Blueprint

variable
  {blueprint : Blueprint σ ρ}
  {limit firstLimit secondLimit : Nat}
  {host : Host σ ρ}
  {job : Job σ}
  {turn first second : Turn σ ρ}

/-- At most so many steps lead from a host and a job to a turn. -/
def Leads
    (blueprint : Blueprint σ ρ)
    (limit : Nat)
    (host : Host σ ρ)
    (job : Job σ)
    (turn : Turn σ ρ) : Prop :=
  ∃ count,
    count ≤ limit ∧
    ∀ (more : Nat) (earlier : Turn σ ρ),
      blueprint.goOn (count + more)
          { earlier with host, next := job } =
        blueprint.goOn more (earlier.followedBy turn)

/-- No step leads nowhere. -/
theorem leads_none
    (host : Host σ ρ)
    (job : Job σ) :
    blueprint.Leads 0 host job { host, next := job } := by
  refine ⟨0, Nat.le_refl 0, ?_⟩
  intro more earlier
  simp [Turn.followedBy]

/-- A step leads to where it goes. -/
theorem leads_step
    (stepped : blueprint.step host job = some turn) :
    blueprint.Leads 1 host job turn := by
  refine ⟨1, Nat.le_refl 1, ?_⟩
  intro more earlier
  rw [Nat.add_comm]
  simp only [goOn, stepped]
  rfl

/-- Steps follow each other. -/
theorem Leads.trans
    (early : blueprint.Leads firstLimit host job first)
    (late : blueprint.Leads secondLimit first.host first.next second) :
    blueprint.Leads (firstLimit + secondLimit) host job
      (first.followedBy second) := by
  obtain ⟨earlyCount, earlyBound, earlyRun⟩ := early
  obtain ⟨lateCount, lateBound, lateRun⟩ := late
  refine ⟨earlyCount + lateCount, by omega, ?_⟩
  intro more earlier
  have onwards := lateRun more (earlier.followedBy first)
  rw [Nat.add_assoc, earlyRun, ← Turn.followedBy_assoc, ← onwards]
  rfl

/-- More steps may be allowed. -/
theorem Leads.mono
    (leads : blueprint.Leads firstLimit host job turn)
    (fewer : firstLimit ≤ secondLimit) :
    blueprint.Leads secondLimit host job turn := by
  obtain ⟨count, bound, run⟩ := leads
  exact ⟨count, Nat.le_trans bound fewer, run⟩

end Blueprint

end PluggableHost.Lifecycle
