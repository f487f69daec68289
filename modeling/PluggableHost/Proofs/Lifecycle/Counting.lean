import PluggableHost.Proofs.Lifecycle.Writings
import PluggableHost.Proofs.Observability.Reading

namespace PluggableHost.Lifecycle

open PluggableHost.Observability

/-!
# Counting transitions

Every state that the host has entered is reported once, by the errand that moved
the host, in its next step.  Between the two steps the report is outstanding.
-/

variable {σ ρ : Type}

namespace Scene

variable
  {blueprint : Blueprint σ ρ}
  {scene : Scene σ ρ}

/-- The states that errands have entered and not reported yet. -/
def outstanding (scene : Scene σ ρ) : List State :=
  scene.errands.filterMap fun errand => errand.job.unreported?

/-- The reading of the counter of transitions into a state. -/
def transitionsTotal
    (scene : Scene σ ρ)
    (state : State) : Nat :=
  ((Metric.readings (scene.journal.filterMap Entry.metric?)).lookup
    (Metric.transition state).name).getD 0

/-- What was reported and what is outstanding is what was entered. -/
def Accounted (scene : Scene σ ρ) : Prop :=
  ∀ state,
    (transitions scene.journal).count state +
        scene.outstanding.count state =
      scene.trail.count state

/-- A step keeps the reports in order. -/
theorem accounted_turned
    {actor : Nat}
    {errand : Errand σ}
    {turn : Turn σ ρ}
    (governed : Governed scene)
    (found : scene.errands[actor]? = some errand)
    (stepped : blueprint.step scene.host errand.job = some turn)
    (accounted : Accounted scene) :
    Accounted (scene.turned actor errand turn) := by
  intro state
  have before := accounted state
  have passage := governed.passage found stepped
  have written :=
    Blueprint.writes_of_step stepped
      (governed.inPlace (List.mem_of_getElem? found))
  obtain ⟨earlier, later, shape, -, after⟩ := errands_split found turn
  have joined :
      (joining turn).filterMap (fun other => other.job.unreported?) = [] :=
    filterMap_joining passage rfl
  rw [outstanding, shape] at before
  rw [outstanding, after, journal_turned, trail_turned,
    transitions_append, written.reported]
  simp only [List.filterMap_append, filterMap_cons_toList,
    List.count_append, joined, List.count_nil] at before ⊢
  cases passage with
  | stay same phase unreported spawned =>
      rw [if_pos same, unreported]
      simp only [Option.toList_none, List.count_nil]
      omega
  | move shift =>
      rw [if_neg shift.moves.ne, shift.charge.2.2.1]
      simp only [Option.toList_some]
      omega

/-- In every scene what was entered is reported, or the report is outstanding. -/
theorem Reachable.accounted
    (reachable : Reachable blueprint scene) :
    scene.Accounted := by
  refine reachable.induct (fun surroundings state => rfl) ?_ ?_ ?_
  · intro scene request _ accounted state
    have silent : (request.job : Job σ).unreported? = none := by
      cases request <;> rfl
    have same :
        (scene.call request).outstanding = scene.outstanding := by
      simp [outstanding, call, silent]
    rw [same]
    exact accounted state
  · intro scene actor errand turn reached found stepped accounted
    exact accounted_turned reached.governed found stepped accounted
  · intro scene surroundings accounted
    exact accounted

/-- When no report is outstanding, the counters tell which states were entered. -/
theorem transitionsTotal_eq
    (reachable : Reachable blueprint scene)
    (quiescent :
      ∀ errand ∈ scene.errands, errand.job.unreported? = none)
    (state : State) :
    scene.transitionsTotal state =
      if state ∈ scene.trail then 1 else 0 := by
  have accounted := reachable.accounted state
  have none : scene.outstanding = [] :=
    List.filterMap_eq_nil_iff.mpr quiescent
  rw [none, List.count_nil, Nat.add_zero] at accounted
  rw [transitionsTotal, reading_transition, accounted]
  exact reachable.governed.path.nodup.count

end Scene

end PluggableHost.Lifecycle
