import PluggableHost.Proofs.Lifecycle.Deferral
import PluggableHost.Proofs.Lifecycle.Writings

namespace PluggableHost.Lifecycle

open PluggableHost.Net PluggableHost.Observability PluggableHost.Plugin PluggableHost.Registry

/-!
# A start comes to its end

Once a host is up, or is not going to be, nothing that the start has to do waits
for anything.  However the turns of others lie between its own, a bounded number
of its own turns is enough to shut the host down, if a shutdown was asked for, or
to leave it stopped, if the start has failed.
-/

variable {σ ρ : Type}

/-- What happens is a turn of the actor. -/
def Happening.isTurnOf (actor : Nat) : Happening ρ → Bool
  | turn other => other == actor
  | _ => false

namespace Job

/-- The job of a start that has failed, up to the end of the start. -/
def givesUp : Job σ → Bool
  | reportFailure _ | withdrawAll (.rollback _) | withdraw (.rollback _) _
  | stop (some (.rollback _)) .take | forgetPending _ | giveUp _ => true
  | _ => false

/-- A job that gives its start up belongs to the start. -/
theorem phase?_of_givesUp
    {job : Job σ}
    (gives : job.givesUp = true) :
    job.phase? = some .startup := by
  cases job with
  | reportFailure failure | forgetPending failure | giveUp failure =>
      rfl
  | withdrawAll purpose | withdraw purpose withdrawal =>
      cases purpose <;> first | rfl | cases gives
  | stop purpose stopping =>
      cases purpose with
      | none =>
          cases gives
      | some purpose =>
          cases purpose <;> first | rfl | cases gives
  | _ =>
      cases gives

/-- How many steps a start that has failed has to take at most. -/
def stepsToEnd (tracked : List Endpoint) : Job σ → Nat
  | reportFailure _ => 6 + 2 * tracked.length
  | withdrawAll _ => 5 + 2 * tracked.length
  | withdraw _ (.untrack endpoints) => 4 + 2 * endpoints.length
  | withdraw _ (.tell _ rest) => 5 + 2 * rest.length
  | stop _ _ => 3
  | forgetPending _ => 2
  | giveUp _ => 1
  | _ => 0

/-- The host has been handed its listeners. -/
def hasKept : Job σ → Bool
  | turnHeartbeatOn | enterRunning => true
  | _ => false

/-- A job that gives its start up has kept no listeners. -/
theorem hasKept_of_givesUp
    {job : Job σ}
    (gives : job.givesUp = true) :
    job.hasKept = false := by
  cases job with
  | turnHeartbeatOn | enterRunning =>
      cases gives
  | _ =>
      rfl

end Job

namespace Blueprint

variable
  {blueprint : Blueprint σ ρ}
  {host : Host σ ρ}
  {job : Job σ}
  {turn : Turn σ ρ}

/-- A job that resumes can take its step. -/
theorem step_of_resumes
    (resumes : job.resumes host.shutdownPending = true) :
    ∃ turn, blueprint.step host job = some turn := by
  cases job with
  | reportRunning | announceStart | lookForPending | resumeShutdown
  | claim =>
      exact ⟨_, rfl⟩
  | _ =>
      simp [Job.resumes] at resumes

/-- A start that has failed never waits: it gives up, or comes closer to it. -/
theorem step_of_givesUp
    (blueprint : Blueprint σ ρ)
    (givesUp : job.givesUp = true)
    (starting : host.state = .starting)
    (idle : host.listening = none) :
    ∃ turn,
      blueprint.step host job = some turn ∧
      (turn.host.state = .stopped ∨
        turn.host.state = .starting ∧
        turn.next.givesUp = true ∧
        turn.next.stepsToEnd turn.host.registrar.tracked <
          job.stepsToEnd host.registrar.tracked) := by
  cases job with
  | reportFailure failure =>
      refine ⟨_, rfl, .inr ⟨starting, rfl, ?_⟩⟩
      simp [Job.stepsToEnd]
  | withdrawAll purpose =>
      cases purpose with
      | rollback failure =>
          refine ⟨_, rfl, .inr ⟨starting, rfl, ?_⟩⟩
          simp [Job.stepsToEnd]
      | shutdown =>
          simp [Job.givesUp] at givesUp
  | withdraw purpose withdrawal =>
      cases purpose with
      | rollback failure =>
          refine ⟨_, rfl, .inr ?_⟩
          cases withdrawal with
          | untrack endpoints =>
              cases endpoints with
              | nil =>
                  exact ⟨starting, rfl, by
                    simp [withdrawalStep, Job.afterWithdrawal,
                      Job.stepsToEnd]⟩
              | cons endpoint rest =>
                  refine ⟨starting, rfl, ?_⟩
                  simp only [withdrawalStep]
                  split <;>
                    simp only [Job.stepsToEnd, List.length_cons] <;>
                      omega
          | tell endpoint rest =>
              simp only [withdrawalStep]
              split <;>
                exact ⟨starting, rfl, by simp [Job.stepsToEnd]⟩
      | shutdown =>
          simp [Job.givesUp] at givesUp
  | stop purpose stopping =>
      cases purpose with
      | none =>
          simp [Job.givesUp] at givesUp
      | some purpose =>
          cases purpose with
          | shutdown =>
              simp [Job.givesUp] at givesUp
          | rollback failure =>
              cases stopping with
              | take =>
                  have empty : host.listeners.isEmpty = true := by
                    simp [Host.listeners, idle]
                  refine ⟨_, rfl, .inr ?_⟩
                  simp only [empty, ↓reduceIte]
                  exact ⟨starting, rfl, by
                    simp [Job.afterStop, Job.stepsToEnd]⟩
              | dismiss listeners =>
                  simp [Job.givesUp] at givesUp
              | await listeners =>
                  simp [Job.givesUp] at givesUp
  | forgetPending failure =>
      refine ⟨_, rfl, .inr ⟨starting, rfl, ?_⟩⟩
      simp [Job.stepsToEnd]
  | giveUp failure =>
      refine ⟨{ host := { host with state := .stopped }
                next := .reportGivenUp failure }, ?_, .inl rfl⟩
      simp only [step, host.advance_of_eq _ starting]
  | _ =>
      simp [Job.givesUp] at givesUp

/-- Once the host has been handed its listeners the start has nothing to hand over. -/
theorem not_kept_of_step
    (stepped : blueprint.step host job = some turn)
    (same : turn.next.phase? = job.phase?)
    (before : turn.next.hasKept = false) :
    job.keeps = false ∧ job.hasKept = false := by
  cases job with
  | keep service listeners =>
      cases stepped
      dsimp only at before
      split at before <;> cases before
  | turnHeartbeatOn =>
      cases stepped
      cases before
  | enterRunning =>
      simp only [step] at stepped
      split at stepped <;>
        cases stepped <;>
          simp [Job.phase?] at same
  | _ =>
      exact ⟨rfl, rfl⟩

/-- Only whoever is in charge changes the list of tracked endpoints. -/
theorem tracked_of_step
    (stepped : blueprint.step host job = some turn)
    (inPlace : job.InPlace host.state)
    (idle : job.phase? = none) :
    turn.host.registrar.tracked = host.registrar.tracked := by
  rw [(writes_of_step stepped inPlace).tracked]
  cases job with
  | track endpoint rest | withdraw purpose withdrawal =>
      cases idle
  | _ =>
      rfl

end Blueprint

namespace Scene

variable
  {blueprint : Blueprint σ ρ}
  {scene : Scene σ ρ}

/-- Until the start has handed over the listeners, the host has none. -/
structure Unheard (scene : Scene σ ρ) : Prop where
  fresh :
    scene.host.state = .notStarted →
      scene.host.listening = none
  rising :
    ∀ errand ∈ scene.errands,
      errand.job.phase? = some .startup →
      errand.job.hasKept = false →
      scene.host.listening = none

/-- A step keeps the host without listeners until a start has handed them over. -/
theorem Unheard.turned
    {actor : Nat}
    {errand : Errand σ}
    {turn : Turn σ ρ}
    (unheard : Unheard scene)
    (reachable : Reachable blueprint scene)
    (found : scene.errands[actor]? = some errand)
    (stepped : blueprint.step scene.host errand.job = some turn) :
    Unheard (scene.turned actor errand turn) := by
  have governed := reachable.governed
  have passage := governed.passage found stepped
  have leaves := Blueprint.leaves_of_step stepped
  have charged (keeps : errand.job.keeps = true) :
      errand.job.phase? = some .startup := by
    cases job : errand.job <;>
      simp [job, Job.keeps] at keeps
    rfl
  constructor
  · intro fresh
    cases passage with
    | move shift =>
        have moves := shift.moves
        rw [show turn.host.state = .notStarted from fresh] at moves
        exact absurd moves State.not_move_notStarted
    | stay state phase unreported spawned =>
        have before : scene.host.state = .notStarted :=
          state.symm.trans fresh
        refine leaves.listening ?_ (unheard.fresh before)
        rw [Bool.eq_false_iff]
        intro keeps
        have held :=
          governed.inPlace (List.mem_of_getElem? found) .startup
            (charged keeps)
        simp [before, State.phase?] at held
  · intro present member starts notKept
    obtain ⟨place, there⟩ := List.getElem?_of_mem member
    rcases errand_turned there with
      ⟨rfl, rfl⟩ | ⟨different, same⟩ | ⟨absent, joins⟩
    · cases passage with
      | stay state phase unreported spawned =>
          obtain ⟨loose, before⟩ :=
            Blueprint.not_kept_of_step stepped phase notKept
          exact leaves.listening loose
            (unheard.rising errand (List.mem_of_getElem? found)
              (phase.symm.trans starts) before)
      | move shift =>
          obtain ⟨request, job⟩ := errand
          cases shift with
          | start source =>
              exact leaves.listening rfl (unheard.fresh source)
          | _ =>
              cases starts
    · refine leaves.listening ?_
        (unheard.rising present (List.mem_of_getElem? same) starts
          notKept)
      rw [Bool.eq_false_iff]
      intro keeps
      exact different
        (governed.unique found same (charged keeps) starts)
    · rw [eq_of_mem_joining passage joins] at starts
      cases starts

/-- In every reachable scene the host has no listeners until a start has handed them over. -/
theorem Reachable.unheard
    (reachable : Reachable blueprint scene) :
    Unheard scene := by
  refine reachable.induct ?_ ?_ ?_ ?_
  · intro surroundings
    exact { fresh := fun _ => rfl, rising := fun _ _ _ _ => rfl }
  · intro scene request _ unheard
    refine { fresh := unheard.fresh, rising := ?_ }
    intro errand member starts notKept
    rcases List.mem_append.mp member with earlier | last
    · exact unheard.rising errand earlier starts notKept
    · rw [List.mem_singleton.mp last] at starts
      cases request <;> cases starts
  · intro scene actor errand turn reached found stepped unheard
    exact unheard.turned reached found stepped
  · intro scene surroundings unheard
    exact { fresh := unheard.fresh, rising := unheard.rising }

/--
What no happening takes away, and every turn of an actor brings closer, is reached
under every schedule that gives the actor enough turns.
-/
theorem Reachable.arrives
    {actor : Nat}
    {within : Nat → Scene σ ρ → Prop}
    (nears :
      ∀ scene happening distance,
        Reachable blueprint scene →
        within distance scene →
        within (distance - if happening.isTurnOf actor then 1 else 0)
          (scene.after blueprint happening))
    (reachable : Reachable blueprint scene)
    {distance : Nat}
    (near : within distance scene)
    {schedule : List (Happening ρ)}
    (enough :
      distance ≤ schedule.countP (Happening.isTurnOf actor)) :
    within 0 (scene.run blueprint schedule) := by
  induction schedule generalizing scene distance with
  | nil =>
      obtain rfl : distance = 0 := Nat.le_zero.mp enough
      exact near
  | cons happening rest inductionHypothesis =>
      refine inductionHypothesis (reachable.after happening)
        (nears scene happening distance reachable near) ?_
      rw [List.countP_cons] at enough
      exact Nat.sub_le_iff_le_add.mpr enough

/-- An errand waits for the turns of its actor. -/
theorem errand_after
    (blueprint : Blueprint σ ρ)
    {actor : Nat}
    {errand : Errand σ}
    {happening : Happening ρ}
    (found : scene.errands[actor]? = some errand)
    (others : happening.isTurnOf actor = false) :
    (scene.after blueprint happening).errands[actor]? = some errand := by
  cases happening with
  | call request =>
      have inside : actor < scene.errands.length :=
        (List.getElem?_eq_some_iff.mp found).1
      exact (List.getElem?_append_left inside).trans found
  | elsewhere surroundings =>
      exact found
  | turn other =>
      have different : actor ≠ other := by
        intro same
        simp [Happening.isTurnOf, same] at others
      rcases after_turn blueprint scene other with
        same | ⟨acting, turn, -, -, same⟩
      · rw [same]
        exact found
      · rw [same]
        exact errand_other different found turn

/-- What was done stays done. -/
theorem mem_history_after
    {deed : Deed σ ρ}
    (member : deed ∈ scene.history)
    (happening : Happening ρ) :
    deed ∈ (scene.after blueprint happening).history := by
  cases happening with
  | call request =>
      exact member
  | elsewhere surroundings =>
      exact member
  | turn actor =>
      rcases after_turn blueprint scene actor with
        same | ⟨errand, turn, -, -, same⟩
      · rw [same]
        exact member
      · rw [same]
        exact List.mem_append_left _ member

/-- A start that runs a shutdown asked for comes to it. -/
structure NearsShutdown
    (actor distance : Nat)
    (scene : Scene σ ρ) : Prop where
  asked : scene.Asked
  started : scene.Started actor
  ran : State.running ∈ scene.trail
  near :
    scene.host.state = .running →
      ∃ errand,
        scene.errands[actor]? = some errand ∧
        errand.job.resumes scene.host.shutdownPending = true ∧
        errand.job.stepsToShutdown ≤ distance

/-- A host that has been running and is running has been running before. -/
theorem running_of_running
    (governed : Governed scene)
    (ran : State.running ∈ scene.trail)
    {happening : Happening ρ}
    (running :
      (scene.after blueprint happening).host.state = .running) :
    scene.host.state = .running := by
  have moves :
      (scene.after blueprint happening).host.state = scene.host.state ∨
        State.Move scene.host.state
          (scene.after blueprint happening).host.state :=
    governed.moves happening
  rcases moves with same | moves
  · exact same.symm.trans running
  · rw [running] at moves
    have before := State.rank_lt_of_move moves
    exact absurd (governed.path.rank_le ran) (Nat.not_le.mpr before)

/-- Whatever happens, a turn of the caller brings its shutdown one step nearer. -/
theorem NearsShutdown.after
    {actor distance : Nat}
    (nears : NearsShutdown actor distance scene)
    (reachable : Reachable blueprint scene)
    (happening : Happening ρ) :
    NearsShutdown actor
      (distance - if happening.isTurnOf actor then 1 else 0)
      (scene.after blueprint happening) := by
  have next := reachable.after happening
  obtain ⟨deed, member, found⟩ := nears.asked
  have asked : (scene.after blueprint happening).Asked :=
    ⟨deed, mem_history_after member happening, found⟩
  obtain ⟨first, present, mine, passes⟩ := nears.started
  have started : (scene.after blueprint happening).Started actor :=
    ⟨first, mem_history_after present happening, mine, passes⟩
  obtain ⟨entering, entered, enters⟩ := List.mem_filterMap.mp nears.ran
  refine
    { asked
      started
      ran :=
        List.mem_filterMap.mpr
          ⟨entering, mem_history_after entered happening, enters⟩
      near := fun running => ?_ }
  have before :=
    running_of_running reachable.governed nears.ran running
  obtain ⟨errand, there, resumes, near⟩ := nears.near before
  obtain ⟨other, after, stands, passed, goesOn⟩ :=
    (next.heeding asked).resuming running
  obtain rfl := next.started_unique passed started
  refine ⟨after, stands, goesOn, ?_⟩
  cases turns : happening.isTurnOf other with
  | false =>
      have same := errand_after blueprint there turns
      rw [same] at stands
      cases stands
      exact near
  | true =>
      cases happening with
      | call request =>
          cases turns
      | elsewhere surroundings =>
          cases turns
      | turn actor =>
          obtain rfl : actor = other := by
            simpa [Happening.isTurnOf] using turns
          obtain ⟨turn, stepped⟩ :=
            blueprint.step_of_resumes resumes
          have shape :
              scene.after blueprint (.turn actor) =
                scene.turned actor errand turn := by
            simp [Scene.after, there, stepped]
          rw [shape] at stands running
          rw [errand_self there turn] at stands
          cases stands
          have closer :=
            (Blueprint.resumes_of_step stepped before
              (running.trans before.symm) resumes).2
          show turn.next.stepsToShutdown ≤ distance - 1
          omega

/-- A start that has failed leaves the host stopped. -/
def NearsEnd
    (actor distance : Nat)
    (scene : Scene σ ρ) : Prop :=
  scene.host.state = .stopped ∨
    scene.host.state = .starting ∧
      ∃ errand,
        scene.errands[actor]? = some errand ∧
        errand.job.givesUp = true ∧
        errand.job.stepsToEnd scene.host.registrar.tracked ≤ distance

/-- Others leave a start that has failed to itself. -/
theorem Governed.apart
    (governed : Governed scene)
    {actor other : Nat}
    {errand acting : Errand σ}
    {turn : Turn σ ρ}
    (found : scene.errands[actor]? = some errand)
    (charged : errand.job.phase? = some .startup)
    (there : scene.errands[other]? = some acting)
    (different : other ≠ actor)
    (stepped : blueprint.step scene.host acting.job = some turn) :
    turn.host.state = scene.host.state ∧
      turn.host.registrar.tracked = scene.host.registrar.tracked := by
  have held : scene.host.state.phase? = some .startup :=
    governed.inPlace (List.mem_of_getElem? found) .startup charged
  have idle : acting.job.phase? = none :=
    governed.idle found charged there different
  have inPlace := governed.inPlace (List.mem_of_getElem? there)
  refine ⟨?_, Blueprint.tracked_of_step stepped inPlace idle⟩
  cases governed.passage there stepped with
  | stay state phase unreported spawned =>
      exact state
  | move shift =>
      have charge := shift.charge.1
      rw [idle, held] at charge
      cases charge

/-- Whatever happens, a turn of the caller brings its end one step nearer. -/
theorem NearsEnd.after
    {actor distance : Nat}
    (nears : NearsEnd actor distance scene)
    (reachable : Reachable blueprint scene)
    (happening : Happening ρ) :
    NearsEnd actor
      (distance - if happening.isTurnOf actor then 1 else 0)
      (scene.after blueprint happening) := by
  rcases nears with stopped | ⟨starting, errand, there, givesUp, near⟩
  · exact .inl (reachable.stopped stopped [happening])
  · have charged : errand.job.phase? = some .startup :=
      Job.phase?_of_givesUp givesUp
    cases happening with
    | call request =>
        exact .inr ⟨starting, errand, errand_after blueprint there rfl,
          givesUp, near⟩
    | elsewhere surroundings =>
        exact .inr ⟨starting, errand, there, givesUp, near⟩
    | turn other =>
        by_cases mine : other = actor
        · subst mine
          have loose : errand.job.hasKept = false :=
            Job.hasKept_of_givesUp givesUp
          obtain ⟨turn, stepped, closer⟩ :=
            blueprint.step_of_givesUp givesUp starting
              (reachable.unheard.rising errand
                (List.mem_of_getElem? there) charged loose)
          have shape :
              scene.after blueprint (.turn other) =
                scene.turned other errand turn := by
            simp [Scene.after, there, stepped]
          rw [shape]
          rcases closer with ended | ⟨stays, goesOn, less⟩
          · exact .inl ended
          · refine .inr ⟨stays, _, errand_self there turn, goesOn, ?_⟩
            have self :
                (Happening.turn other : Happening ρ).isTurnOf other =
                  true := by
              simp [Happening.isTurnOf]
            rw [self]
            show turn.next.stepsToEnd turn.host.registrar.tracked ≤
              distance - 1
            omega
        · have others :
              (Happening.turn other : Happening ρ).isTurnOf actor =
                false := by
            simp [Happening.isTurnOf, mine]
          rw [others]
          have present := errand_after blueprint there others
          rcases after_turn blueprint scene other with
            same | ⟨acting, turn, found, stepped, same⟩
          · rw [same]
            exact .inr ⟨starting, errand, there, givesUp, near⟩
          · obtain ⟨state, tracked⟩ :=
              reachable.governed.apart there charged found mine stepped
            rw [same] at present ⊢
            refine .inr ⟨state.trans starting, errand, present,
              givesUp, ?_⟩
            show errand.job.stepsToEnd turn.host.registrar.tracked ≤
              distance
            rw [tracked]
            exact near

end Scene

end PluggableHost.Lifecycle
