import PluggableHost.Proofs.Lifecycle.Guard

namespace PluggableHost.Lifecycle

open PluggableHost.Observability PluggableHost.Plugin

/-!
# How far a start has come

A start that has passed its guard is in charge until the host is running or the
start has given up.  From then on it can no longer end otherwise: a start that
has risen returns without a failure, and a start that has fallen has left a host
behind that has stopped and never ran.
-/

/-- The stretches of the way of a start. -/
inductive Leg where
  | atGuard
  | rising
  | settling
  | fallen
  | free
  deriving Repr, DecidableEq

variable {σ ρ : Type}

namespace Job

/-- The leg that a job is on.  Only jobs of starts are on a leg before the last. -/
def leg : Job σ → Leg
  | begin | refuseToBegin _ => .atGuard
  | reportRunning | announceStart | lookForPending | resumeShutdown =>
      .settling
  | reportGivenUp _ | done (.error _) => .fallen
  | job => if job.phase? = some .startup then .rising else .free

/-- A job of the start is on the rising leg. -/
theorem leg_of_startup
    {job : Job σ}
    (charged : job.phase? = some .startup) :
    job.leg = .rising := by
  cases job with
  | done outcome =>
      cases outcome <;> simp [phase?] at charged
  | _ =>
      simp_all [leg, phase?]

/-- A job of the shutdown is on no leg of the start. -/
theorem leg_of_shutdown
    {job : Job σ}
    (charged : job.phase? = some .shutdown) :
    job.leg = .free := by
  cases job with
  | done outcome =>
      cases outcome <;> simp [phase?] at charged
  | _ =>
      simp_all [leg, phase?]

/-- Reporting how a shutdown was claimed is on no leg of the start. -/
theorem leg_reportClaim
    (claim : Claim) :
    (reportClaim claim : Job σ).leg = .free := by
  cases claim <;> rfl

/-- As long as the charge stays, a job changes its leg only where a start ends. -/
theorem leg_of_step
    {blueprint : Blueprint σ ρ}
    {host : Host σ ρ}
    {job : Job σ}
    {turn : Turn σ ρ}
    (stepped : blueprint.step host job = some turn)
    (same : turn.next.phase? = job.phase?) :
    turn.next.leg = job.leg ∨
      (job.leg = .atGuard ∧ turn.next.leg = .fallen) ∨
      (job.leg = .settling ∧ turn.next.leg = .free) := by
  cases charged : job.phase? with
  | some phase =>
      rw [charged] at same
      cases phase with
      | startup =>
          exact .inl
            ((leg_of_startup same).trans (leg_of_startup charged).symm)
      | shutdown =>
          exact .inl
            ((leg_of_shutdown same).trans (leg_of_shutdown charged).symm)
  | none =>
      rw [charged] at same
      cases job with
      | begin =>
          by_cases free : host.state = .notStarted
          · simp only [Blueprint.step, host.advance_of_eq _ free] at stepped
            cases stepped
            simp [phase?] at same
          · simp only [Blueprint.step, host.advance_of_ne _ free] at stepped
            cases stepped
            exact .inl rfl
      | refuseToBegin found =>
          cases stepped
          exact .inr (.inl ⟨rfl, rfl⟩)
      | lookForPending =>
          simp only [Blueprint.step] at stepped
          cases stepped
          cases host.shutdownPending with
          | false =>
              exact .inr (.inr ⟨rfl, rfl⟩)
          | true =>
              exact .inl rfl
      | resumeShutdown =>
          cases stepped
          exact .inr (.inr ⟨rfl, rfl⟩)
      | claim =>
          cases stepped
          exact .inl (leg_reportClaim _)
      | reportClaim claim =>
          cases claim <;>
            cases stepped <;>
              exact .inl rfl
      | done outcome =>
          cases stepped
      | awaitSignal =>
          simp only [Blueprint.step] at stepped
          split at stepped <;> cases stepped
          exact .inl rfl
      | stop purpose stopping =>
          cases purpose with
          | some purpose =>
              simp [phase?] at charged
          | none =>
              have free :
                  turn.next = .done (.ok ()) ∨
                    ∃ other, turn.next = .stop none other := by
                cases stopping with
                | take =>
                    cases stepped
                    dsimp only
                    split
                    · exact .inl rfl
                    · exact .inr ⟨_, rfl⟩
                | dismiss listeners =>
                    cases stepped
                    exact .inr ⟨_, rfl⟩
                | await listeners =>
                    cases listeners with
                    | nil =>
                        cases stepped
                        exact .inl rfl
                    | cons listener rest =>
                        simp only [Blueprint.step,
                          Blueprint.stoppingStep] at stepped
                        split at stepped <;> cases stepped
                        exact .inr ⟨_, rfl⟩
              rcases free with ended | ⟨other, again⟩
              · rw [ended]
                exact .inl rfl
              · rw [again]
                exact .inl rfl
      | _ =>
          first
            | (simp [phase?] at charged; done)
            | (cases stepped; exact .inl rfl)

end Job

namespace Scene

variable
  {blueprint : Blueprint σ ρ}
  {scene : Scene σ ρ}

/-- An actor is the one whose start has passed the guard. -/
def Started
    (scene : Scene σ ρ)
    (actor : Nat) : Prop :=
  ∃ deed ∈ scene.history, deed.actor = actor ∧ deed.passesGuard = true

/-- What the leg of an errand tells about the host. -/
inductive Standing (scene : Scene σ ρ) (actor : Nat) : Leg → Prop where
  /-- It is no start, or was turned away, or has not asked yet. -/
  | outside
      {leg : Leg}
      (never : ¬ scene.Started actor)
      (notRising : leg ≠ .rising)
      (notSettling : leg ≠ .settling) :
      Standing scene actor leg
  /-- It is bringing the host up, or gives up. -/
  | rising
      (started : scene.Started actor) :
      Standing scene actor .rising
  /-- It has brought the host up. -/
  | risen
      {leg : Leg}
      (started : scene.Started actor)
      (ran : State.running ∈ scene.trail)
      (beyond : leg = .settling ∨ leg = .free) :
      Standing scene actor leg
  /-- It has given up. -/
  | fallen
      (started : scene.Started actor)
      (stopped : scene.host.state = .stopped)
      (neverRan : State.running ∉ scene.trail) :
      Standing scene actor .fallen

/-- Two starts never pass the guard. -/
theorem Reachable.started_unique
    (reachable : Reachable blueprint scene)
    {actor other : Nat}
    (started : scene.Started actor)
    (another : scene.Started other) :
    actor = other := by
  obtain ⟨deed, member, rfl, passes⟩ := started
  obtain ⟨rival, present, rfl, rivals⟩ := another
  rw [eq_of_mem_of_selected reachable.guarded member passes present rivals]

/-- A caller starts by the one step that begins a start on a host not yet started. -/
theorem started_turned
    {actor other : Nat}
    {errand : Errand σ}
    {turn : Turn σ ρ} :
    (scene.turned actor errand turn).Started other ↔
      scene.Started other ∨
        (actor = other ∧ errand.job = .begin ∧
          scene.host.state = .notStarted) := by
  have passes :
      Deed.passesGuard
          { actor
            request := errand.request
            job := errand.job
            before := scene.host
            turn } = true ↔
        errand.job = .begin ∧ scene.host.state = .notStarted := by
    unfold Deed.passesGuard
    dsimp only
    split
    · simp_all
    · simp_all
  constructor
  · rintro ⟨deed, member, same, guarded⟩
    rcases List.mem_append.mp member with earlier | last
    · exact .inl ⟨deed, earlier, same, guarded⟩
    · rw [List.mem_singleton.mp last] at same guarded
      exact .inr ⟨same, passes.mp guarded⟩
  · rintro (⟨deed, member, same, guarded⟩ | ⟨same, guarded⟩)
    · exact ⟨deed, List.mem_append_left _ member, same, guarded⟩
    · exact ⟨_, List.mem_append_right _ (List.mem_singleton.mpr rfl),
        same, passes.mpr guarded⟩

/-- A step that stays in its place is not the one that passes the guard. -/
theorem started_turned_of_stay
    {actor other : Nat}
    {errand : Errand σ}
    {turn : Turn σ ρ}
    (stepped : blueprint.step scene.host errand.job = some turn)
    (state : turn.host.state = scene.host.state) :
    (scene.turned actor errand turn).Started other ↔
      scene.Started other := by
  rw [started_turned, or_iff_left]
  rintro ⟨-, begins, free⟩
  rw [begins] at stepped
  simp only [Blueprint.step, scene.host.advance_of_eq _ free] at stepped
  cases stepped
  simp [free] at state

namespace Standing

variable
  {actor other : Nat}
  {errand : Errand σ}
  {turn : Turn σ ρ}
  {leg : Leg}

/-- Only the history and the state count. -/
theorem alike
    {another : Scene σ ρ}
    (standing : Standing scene actor leg)
    (history : another.history = scene.history)
    (state : another.host.state = scene.host.state) :
    Standing another actor leg := by
  have started : another.Started actor ↔ scene.Started actor := by
    simp only [Started, history]
  have trail : another.trail = scene.trail := by
    simp only [Scene.trail, history]
  cases standing with
  | outside never notRising notSettling =>
      exact .outside (mt started.mp never) notRising notSettling
  | rising passed =>
      exact .rising (started.mpr passed)
  | risen passed ran beyond =>
      exact .risen (started.mpr passed) (trail ▸ ran) beyond
  | fallen passed stopped neverRan =>
      exact .fallen (started.mpr passed) (state.trans stopped)
        (trail ▸ neverRan)

/-- A step of an errand that leaves the state as it is. -/
theorem stay
    (standing : Standing scene actor errand.job.leg)
    (stepped : blueprint.step scene.host errand.job = some turn)
    (state : turn.host.state = scene.host.state)
    (phase : turn.next.phase? = errand.job.phase?) :
    Standing (scene.turned actor errand turn) actor turn.next.leg := by
  have started :
      (scene.turned actor errand turn).Started actor ↔
        scene.Started actor :=
    started_turned_of_stay stepped state
  have trail : (scene.turned actor errand turn).trail = scene.trail := by
    rw [trail_turned, if_pos state, List.append_nil]
  have legs := Job.leg_of_step stepped phase
  generalize errand.job.leg = leg at standing legs
  cases standing with
  | outside never notRising notSettling =>
      rcases legs with same | ⟨-, fallen⟩ | ⟨settled, -⟩
      · rw [same]
        exact .outside (mt started.mp never) notRising notSettling
      · rw [fallen]
        exact .outside (mt started.mp never) (by decide) (by decide)
      · exact absurd settled notSettling
  | rising passed =>
      rcases legs with same | ⟨guard, -⟩ | ⟨settled, -⟩
      · rw [same]
        exact .rising (started.mpr passed)
      · cases guard
      · cases settled
  | risen passed ran beyond =>
      refine .risen (started.mpr passed) (trail ▸ ran) ?_
      rcases legs with same | ⟨guard, -⟩ | ⟨-, free⟩
      · rw [same]
        exact beyond
      · rw [guard] at beyond
        exact absurd beyond (by decide)
      · exact .inr free
  | fallen passed stopped neverRan =>
      rcases legs with same | ⟨guard, -⟩ | ⟨settled, -⟩
      · rw [same]
        exact .fallen (started.mpr passed) (state.trans stopped)
          (trail ▸ neverRan)
      · cases guard
      · cases settled

/-- A step of an errand that moves the state. -/
theorem move
    (standing : Standing scene actor errand.job.leg)
    (governed : Governed scene)
    (shift : Shift scene.host errand.job turn) :
    Standing (scene.turned actor errand turn) actor turn.next.leg := by
  have trail :
      (scene.turned actor errand turn).trail =
        scene.trail ++ [turn.host.state] := by
    rw [trail_turned, if_neg shift.moves.ne]
  obtain ⟨request, job⟩ := errand
  have kept :
      scene.Started actor →
        (scene.turned actor { request, job } turn).Started actor :=
    fun started => started_turned.mpr (.inl started)
  have free
      (was : job.leg = .free)
      (notBegin : job ≠ .begin) :
      Standing (scene.turned actor { request, job } turn) actor .free := by
    change Standing scene actor job.leg at standing
    rw [was] at standing
    cases standing with
    | outside never notRising notSettling =>
        refine .outside ?_ notRising notSettling
        rw [started_turned]
        rintro (started | ⟨-, begins, -⟩)
        · exact never started
        · exact notBegin begins
    | risen started ran beyond =>
        refine .risen (kept started) ?_ beyond
        rw [trail]
        exact List.mem_append_left _ ran
  cases shift with
  | start source =>
      exact .rising (started_turned.mpr (.inr ⟨rfl, rfl, source⟩))
  | neverStarted source =>
      exact free rfl (by simp)
  | shutDown source =>
      exact free rfl (by simp)
  | finish source =>
      exact free rfl (by simp)
  | started source =>
      cases standing with
      | outside never notRising notSettling =>
          exact absurd rfl notRising
      | rising started =>
          refine .risen (kept started) ?_ (.inl rfl)
          rw [trail]
          simp
      | risen started ran beyond =>
          simp [Job.leg, Job.phase?] at beyond
  | startFailed source =>
      cases standing with
      | outside never notRising notSettling =>
          exact absurd rfl notRising
      | rising started =>
          refine .fallen (kept started) rfl ?_
          have neverRan : State.running ∉ scene.trail := by
            intro ran
            have before := governed.path.rank_le ran
            rw [source] at before
            exact absurd before (by decide)
          rw [trail]
          simp [neverRan]
      | risen started ran beyond =>
          simp [Job.leg, Job.phase?] at beyond

/-- A step of another errand. -/
theorem others
    (standing : Standing scene other leg)
    (different : other ≠ actor)
    (passage : Passage scene.host errand.job turn) :
    Standing (scene.turned actor errand turn) other leg := by
  have started :
      (scene.turned actor errand turn).Started other ↔
        scene.Started other := by
    rw [started_turned, or_iff_left]
    exact fun guarded => different guarded.1.symm
  cases standing with
  | outside never notRising notSettling =>
      exact .outside (mt started.mp never) notRising notSettling
  | rising passed =>
      exact .rising (started.mpr passed)
  | risen passed ran beyond =>
      refine .risen (started.mpr passed) ?_ beyond
      rw [trail_turned]
      exact List.mem_append_left _ ran
  | fallen passed stopped neverRan =>
      have state : turn.host.state = scene.host.state := by
        cases passage with
        | stay state phase unreported spawned =>
            exact state
        | move shift =>
            have moves := shift.moves
            rw [stopped] at moves
            exact absurd moves (State.not_move_of_isTerminal rfl)
      refine .fallen (started.mpr passed) (state.trans stopped) ?_
      rw [trail_turned, if_pos state, List.append_nil]
      exact neverRan

end Standing

/-- An errand that the scene does not hold yet has not passed the guard. -/
theorem not_started
    (sound : Sound blueprint scene)
    {actor : Nat}
    (absent : scene.errands.length ≤ actor) :
    ¬ scene.Started actor := by
  rintro ⟨deed, member, same, -⟩
  have present := sound.present deed member
  omega

/-- Every errand stands where its leg says. -/
theorem Reachable.placed
    (reachable : Reachable blueprint scene)
    {actor : Nat}
    {errand : Errand σ}
    (found : scene.errands[actor]? = some errand) :
    Standing scene actor errand.job.leg := by
  have each :
      Each
        (fun scene actor errand =>
          Standing scene actor errand.job.leg)
        scene := by
    refine reachable.each ?_ ?_ ?_ ?_ ?_ ?_
    · intro scene request reached
      have never :
          ¬ (scene.call request).Started scene.errands.length :=
        not_started reached.sound (Nat.le_refl _)
      refine .outside never ?_ ?_ <;>
        cases request <;>
          simp [Demand.job, Job.stopListeners, Job.leg, Job.phase?]
    · intro scene request actor errand standing
      exact standing.alike rfl rfl
    · intro scene actor errand turn reached found stepped standing
      cases reached.governed.passage found stepped with
      | stay state phase unreported spawned =>
          exact standing.stay stepped state phase
      | move shift =>
          exact standing.move reached.governed shift
    · intro scene actor acting turn other errand reached found stepped
        different _ standing
      exact standing.others different
        (reached.governed.passage found stepped)
    · intro scene actor acting turn other reached inside absent
      refine .outside ?_ ?_ ?_ <;>
        try simp [Job.leg, Job.phase?]
      rw [started_turned]
      rintro (started | ⟨rfl, -⟩)
      · exact not_started reached.sound absent started
      · omega
    · intro scene surroundings actor errand standing
      exact standing.alike rfl rfl
  exact each actor errand found

/-- Only a start that has passed the guard is settling. -/
theorem Reachable.started_of_settling
    (reachable : Reachable blueprint scene)
    {actor : Nat}
    {errand : Errand σ}
    (found : scene.errands[actor]? = some errand)
    (settling : errand.job.leg = .settling) :
    scene.Started actor ∧ State.running ∈ scene.trail := by
  have standing := reachable.placed found
  rw [settling] at standing
  cases standing with
  | outside never notRising notSettling =>
      exact absurd rfl notSettling
  | risen started ran beyond =>
      exact ⟨started, ran⟩

end Scene

end PluggableHost.Lifecycle
