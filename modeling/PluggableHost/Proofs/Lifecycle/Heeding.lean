import PluggableHost.Proofs.Lifecycle.Progress

namespace PluggableHost.Lifecycle

open PluggableHost.Observability PluggableHost.Plugin

/-!
# Every request for a shutdown is heeded

Whenever a shutdown was asked for, before, during or after a start: once the
start has returned, the host is not running.  A shutdown that was put off until
the end of the start is followed by one shutdown, whoever runs it, if the host
came up, and by the end of the host if it did not.
-/

variable {σ ρ : Type}

namespace Deed

/-- The deed takes it upon its errand to shut the host down. -/
def wins (deed : Deed σ ρ) : Bool :=
  deed.claim? == some .won

/-- The deed that wins is the one that enters the shutdown. -/
theorem wins_iff
    {blueprint : Blueprint σ ρ}
    {deed : Deed σ ρ}
    (stepped : blueprint.step deed.before deed.job = some deed.turn)
    (passage : Passage deed.before deed.job deed.turn) :
    deed.wins = true ↔ deed.entered? = some .shuttingDown := by
  obtain ⟨actor, request, job, before, turn⟩ := deed
  change Passage before job turn at passage
  constructor
  · intro wins
    have claimed : job.asks = true ∧ before.claimShutdown.1 = .won := by
      simpa [Deed.wins, claim?] using wins
    obtain ⟨asks, won⟩ := claimed
    have after := Blueprint.host_of_asks stepped asks
    rcases Blueprint.claimShutdown_cases before with
      ⟨claim, state⟩ | ⟨claim, state⟩ | ⟨claim, state⟩ | ⟨claim, state⟩ <;>
        rw [claim] at won after <;>
          cases won
    change turn.host = _ at after
    simp [entered?, after, state]
  · intro entered
    cases passage with
    | stay state phase unreported spawned =>
        rw [entered?, if_pos state] at entered
        cases entered
    | move shift =>
        cases shift with
        | shutDown source =>
            simp [wins, claim?, Job.asks, Host.claimShutdown, source]
        | _ =>
            simp [entered?] at entered

/-- A shutdown is put off only while the host is starting. -/
theorem starting_of_deferred
    {deed : Deed σ ρ}
    (deferred : deed.claim? = some .deferred) :
    deed.before.state = .starting := by
  unfold claim? at deferred
  split at deferred
  · rcases Blueprint.claimShutdown_cases deed.before with
      ⟨claim, state⟩ | ⟨claim, state⟩ | ⟨claim, state⟩ | ⟨claim, state⟩ <;>
        rw [claim] at deferred
    · cases deferred
    · cases deferred
    · exact state
    · cases deferred
  · cases deferred

end Deed

namespace Scene

variable
  {blueprint : Blueprint σ ρ}
  {scene : Scene σ ρ}

/-- As many shutdowns are won as the shutdown is entered. -/
theorem Reachable.length_wins
    (reachable : Reachable blueprint scene) :
    (scene.history.filter Deed.wins).length =
      if State.shuttingDown ∈ scene.trail then 1 else 0 := by
  have counted :
      (scene.history.filter Deed.wins).length =
        scene.trail.count .shuttingDown :=
    length_filter_eq_count fun deed member =>
      Deed.wins_iff
        (reachable.sound.stepped deed member) (reachable.passage member)
  rw [counted]
  exact reachable.governed.path.nodup.count

/-- Nobody has won before a shutdown is put off. -/
theorem Reachable.not_won_before
    (reachable : Reachable blueprint scene)
    {earlier later : List (Deed σ ρ)}
    {deed : Deed σ ρ}
    (shape : scene.history = earlier ++ deed :: later)
    (deferred : deed.claim? = some .deferred) :
    earlier.filter Deed.wins = [] := by
  have path := reachable.pathBefore shape
  rw [Deed.starting_of_deferred deferred] at path
  apply List.filter_eq_nil_iff.mpr
  intro other member wins
  have present : other ∈ scene.history := by
    rw [shape]
    exact List.mem_append_left _ member
  have entered :=
    (Deed.wins_iff (reachable.sound.stepped other present)
      (reachable.passage present)).mp wins
  have far := path.rank_le (List.mem_filterMap.mpr ⟨other, member, entered⟩)
  exact absurd far (by decide)

/-- What was won at all was won after a shutdown was put off. -/
theorem Reachable.length_wins_later
    (reachable : Reachable blueprint scene)
    {earlier later : List (Deed σ ρ)}
    {deed : Deed σ ρ}
    (shape : scene.history = earlier ++ deed :: later)
    (deferred : deed.claim? = some .deferred) :
    (later.filter Deed.wins).length =
      if State.shuttingDown ∈ scene.trail then 1 else 0 := by
  have loses : deed.wins = false := by
    simp [Deed.wins, deferred]
  have total := reachable.length_wins
  rw [shape, List.filter_append,
    reachable.not_won_before shape deferred,
    List.filter_cons_of_neg (by simp [loses])] at total
  exact total

/-- Whoever is over is not on its way to a shutdown. -/
theorem resumes_of_isOver
    {job : Job σ}
    (ended : job.isOver = true)
    (pending : Bool) :
    job.resumes pending = false := by
  cases job with
  | done outcome | brokenDown =>
      rfl
  | _ =>
      cases ended

/-- Once the start has returned, a host that was asked to shut down is not running. -/
theorem Reachable.not_running
    (reachable : Reachable blueprint scene)
    (returned :
      ∀ (actor : Nat) errand,
        scene.errands[actor]? = some errand →
        scene.Started actor →
        errand.job.isOver = true)
    (asked : scene.Asked) :
    scene.host.state ≠ .running := by
  intro running
  obtain ⟨actor, errand, found, started, resumes⟩ :=
    (reachable.heeding asked).resuming running
  have ended := returned actor errand found started
  rw [resumes_of_isOver ended] at resumes
  cases resumes

/-- A start returns without a failure only if the host has been running. -/
theorem Reachable.ran_of_ok
    (reachable : Reachable blueprint scene)
    {actor : Nat}
    {errand : Errand σ}
    (found : scene.errands[actor]? = some errand)
    (started : scene.Started actor)
    (ended : errand.job = .done (.ok ())) :
    State.running ∈ scene.trail := by
  have standing := reachable.placed found
  rw [ended] at standing
  cases standing with
  | outside never notRising notSettling =>
      exact absurd started never
  | risen passed ran beyond =>
      exact ran

/-- A start returns a failure only if the host has stopped without having run. -/
theorem Reachable.stopped_of_error
    (reachable : Reachable blueprint scene)
    {actor : Nat}
    {errand : Errand σ}
    {failure : HostError}
    (found : scene.errands[actor]? = some errand)
    (started : scene.Started actor)
    (ended : errand.job = .done (.error failure)) :
    scene.host.state = .stopped ∧ State.running ∉ scene.trail := by
  have standing := reachable.placed found
  rw [ended] at standing
  cases standing with
  | outside never notRising notSettling =>
      exact absurd started never
  | risen passed ran beyond =>
      simp [Job.leg] at beyond
  | fallen passed stopped neverRan =>
      exact ⟨stopped, neverRan⟩

/-- A host that has stopped after a shutdown was put off has stopped since. -/
theorem Reachable.stopped_later
    (reachable : Reachable blueprint scene)
    (stopped : scene.host.state = .stopped)
    {earlier later : List (Deed σ ρ)}
    {deed : Deed σ ρ}
    (shape : scene.history = earlier ++ deed :: later)
    (deferred : deed.claim? = some .deferred) :
    State.stopped ∈ later.filterMap Deed.entered? := by
  have starting := Deed.starting_of_deferred deferred
  have before := reachable.pathBefore shape
  have onTrail : State.stopped ∈ scene.trail := by
    rw [← stopped]
    exact reachable.governed.path.mem_of_ne (by rw [stopped]; decide)
  rw [trail, shape, List.filterMap_append, filterMap_cons_toList] at onTrail
  rcases List.mem_append.mp onTrail with early | since
  · have far := before.rank_le early
    rw [starting] at far
    exact absurd far (by decide)
  · rcases List.mem_append.mp since with now | after
    · have member : deed ∈ scene.history := by
        rw [shape]
        simp
      have asks : deed.job.asks = true := by
        by_cases asks : deed.job.asks = true
        · exact asks
        · simp [Deed.claim?, asks] at deferred
      have turned :=
        Blueprint.host_of_asks
          (reachable.sound.stepped deed member) asks
      simp [Deed.entered?, turned, Host.claimShutdown, starting] at now
    · exact after

/-- A job is never more than five steps away from the shutdown it must run. -/
theorem stepsToShutdown_le
    (job : Job σ) :
    job.stepsToShutdown ≤ 5 := by
  cases job <;> simp [Job.stepsToShutdown]

/-- A host that was asked to shut down is not running after five more steps of the start. -/
theorem Reachable.shutDown_in_time
    (reachable : Reachable blueprint scene)
    {actor : Nat}
    (started : scene.Started actor)
    (asked : scene.Asked)
    (ran : State.running ∈ scene.trail)
    {schedule : List (Happening ρ)}
    (enough : 5 ≤ schedule.countP (Happening.isTurnOf actor)) :
    (scene.run blueprint schedule).host.state ≠ .running ∧
      ((scene.run blueprint schedule).history.filter
        Deed.wins).length = 1 := by
  have near : NearsShutdown actor 5 scene := by
    refine { asked, started, ran, near := fun running => ?_ }
    obtain ⟨other, errand, found, passed, resumes⟩ :=
      (reachable.heeding asked).resuming running
    obtain rfl := reachable.started_unique passed started
    exact ⟨errand, found, resumes, stepsToShutdown_le errand.job⟩
  have arrived : NearsShutdown actor 0 (scene.run blueprint schedule) :=
    reachable.arrives
      (fun _ happening _ reached nears => nears.after reached happening)
      near enough
  have notRunning :
      (scene.run blueprint schedule).host.state ≠ .running := by
    intro running
    obtain ⟨errand, -, resumes, steps⟩ := arrived.near running
    cases job : errand.job <;>
      simp [job, Job.resumes, Job.stepsToShutdown] at resumes steps
  refine ⟨notRunning, ?_⟩
  have after := reachable.run schedule
  rw [after.length_wins,
    if_pos (after.governed.path.shuttingDown_mem arrived.ran notRunning)]

/-- A start that has failed leaves the host stopped after so many more steps. -/
theorem Reachable.stopped_in_time
    (reachable : Reachable blueprint scene)
    {actor : Nat}
    {errand : Errand σ}
    {failure : HostError}
    (found : scene.errands[actor]? = some errand)
    (fails : errand.job = .reportFailure failure)
    {schedule : List (Happening ρ)}
    (enough :
      6 + 2 * scene.host.registrar.tracked.length ≤
        schedule.countP (Happening.isTurnOf actor)) :
    (scene.run blueprint schedule).host.state = .stopped := by
  have charged : errand.job.phase? = some .startup := by
    rw [fails]; rfl
  have starting : scene.host.state = .starting :=
    reachable.governed.state_eq found charged
  have near :
      NearsEnd actor (6 + 2 * scene.host.registrar.tracked.length)
        scene := by
    refine .inr ⟨starting, errand, found, ?_, ?_⟩ <;>
      rw [fails]
    · rfl
    · exact Nat.le_refl _
  have arrived : NearsEnd actor 0 (scene.run blueprint schedule) :=
    reachable.arrives
      (fun _ happening _ reached nears => nears.after reached happening)
      near enough
  rcases arrived with stopped | ⟨-, other, -, gives, steps⟩
  · exact stopped
  · cases job : other.job with
    | withdraw purpose withdrawal =>
        cases withdrawal <;> simp [job, Job.stepsToEnd] at steps
    | _ =>
        simp [job, Job.givesUp, Job.stepsToEnd] at gives steps

/-- What comes of the requests for a shutdown in a scene. -/
structure Heeds
    (blueprint : Blueprint σ ρ)
    (scene : Scene σ ρ) : Prop where
  notRunning :
    (∀ (actor : Nat) errand,
      scene.errands[actor]? = some errand →
      scene.Started actor →
      errand.job.isOver = true) →
    scene.Asked →
    scene.host.state ≠ .running
  shutDown :
    ∀ (actor : Nat) errand earlier deed later,
      scene.errands[actor]? = some errand →
      scene.Started actor →
      errand.job = .done (.ok ()) →
      scene.history = earlier ++ deed :: later →
      deed.claim? = some .deferred →
      earlier.filter Deed.wins = [] ∧
        (later.filter Deed.wins).length = 1
  stopped :
    ∀ (actor : Nat) errand failure earlier deed later,
      scene.errands[actor]? = some errand →
      scene.Started actor →
      errand.job = .done (.error failure) →
      scene.history = earlier ++ deed :: later →
      deed.claim? = some .deferred →
      scene.host.state = .stopped ∧
        State.stopped ∈ later.filterMap Deed.entered? ∧
        scene.history.filter Deed.wins = []
  /-- The start never waits on its way to the shutdown. -/
  shutDownInTime :
    ∀ actor schedule,
      scene.Started actor →
      scene.Asked →
      State.running ∈ scene.trail →
      5 ≤ schedule.countP (Happening.isTurnOf actor) →
      (scene.run blueprint schedule).host.state ≠ .running ∧
        ((scene.run blueprint schedule).history.filter
          Deed.wins).length = 1
  /-- Nor does a start that has failed wait on its way to the end. -/
  stoppedInTime :
    ∀ (actor : Nat) errand failure schedule,
      scene.errands[actor]? = some errand →
      errand.job = .reportFailure failure →
      6 + 2 * scene.host.registrar.tracked.length ≤
        schedule.countP (Happening.isTurnOf actor) →
      (scene.run blueprint schedule).host.state = .stopped

/--
Under every interleaving of any number of starts, stops and shutdowns, whatever
the surroundings do, no request for a shutdown is lost.
-/
theorem heedsShutdowns
    (blueprint : Blueprint σ ρ)
    (surroundings : Surroundings ρ)
    (schedule : List (Happening ρ)) :
    Heeds blueprint
      (run blueprint (opening surroundings) schedule) := by
  generalize led :
    run blueprint (opening surroundings) schedule = scene
  have reachable : Reachable blueprint scene :=
    ⟨surroundings, schedule, led.symm⟩
  refine
    { notRunning := reachable.not_running
      shutDown := ?_
      stopped := ?_
      shutDownInTime := fun _ _ started asked ran enough =>
        reachable.shutDown_in_time started asked ran enough
      stoppedInTime := fun _ _ _ _ found fails enough =>
        reachable.stopped_in_time found fails enough }
  · intro actor errand earlier deed later found started ended shape deferred
    have ran := reachable.ran_of_ok found started ended
    have asked : scene.Asked := by
      refine ⟨deed, ?_, by simp [deferred]⟩
      rw [shape]
      simp
    have notRunning : scene.host.state ≠ .running := by
      refine reachable.not_running ?_ asked
      intro other present there passed
      obtain rfl := reachable.started_unique started passed
      rw [found] at there
      cases there
      rw [ended]
      rfl
    have entered :=
      reachable.governed.path.shuttingDown_mem ran notRunning
    refine ⟨reachable.not_won_before shape deferred, ?_⟩
    rw [reachable.length_wins_later shape deferred, if_pos entered]
  · intro actor errand failure earlier deed later found started ended shape
      deferred
    obtain ⟨stopped, neverRan⟩ :=
      reachable.stopped_of_error found started ended
    refine ⟨stopped, reachable.stopped_later stopped shape deferred, ?_⟩
    have none := reachable.length_wins
    rw [if_neg (mt reachable.governed.path.mem_of_mem.1 neverRan)] at none
    exact List.eq_nil_of_length_eq_zero none

/-- A shutdown that is asked for while the host starts is carried out by the start. -/
example :
    let provider : Plugin.Provider Unit :=
      { name := "root", handler := some fun _ => .done { status := 200 } }
    let blueprint : Blueprint Unit Unit :=
      { settings := {}
        plugins := ({} : Plugin.Plugins Unit Unit).provide .answer provider
        material := .memory [] }
    let schedule : List (Happening Unit) :=
      [.call .start, .turn 0, .call .shutdown, .turn 1] ++
        List.replicate 14 (.turn 0)
    let scene :=
      run blueprint
        (opening { registry := (), network := { rules := .standard } })
        schedule
    scene.host.state = .shuttingDown ∧
      (scene.history.filter Deed.wins).length = 1 := by
  decide +kernel

end Scene

end PluggableHost.Lifecycle
