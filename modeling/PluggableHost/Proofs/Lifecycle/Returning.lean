import PluggableHost.Proofs.Lifecycle.Listeners
import PluggableHost.Proofs.Lifecycle.Measure
import PluggableHost.Proofs.Lifecycle.Published

namespace PluggableHost.Lifecycle

open PluggableHost.Http PluggableHost.Net PluggableHost.Observability PluggableHost.Plugin
open PluggableHost.Registry

/-!
# Every errand returns

An errand has so many steps to take at most, whatever others do meanwhile.  It
stops short of its end to wait for the signal or for a listener, and for nothing
else, and a start does not wait at all before the host is running.  One thing only
breaks a start down: workers that cannot be counted.  Then the host is starting
for good.
-/

variable {σ ρ : Type}

/-- A turn of a caller is just that. -/
theorem Happening.eq_turn
    {actor : Nat}
    {happening : Happening ρ}
    (turns : happening.isTurnOf actor = true) :
    happening = .turn actor := by
  cases happening with
  | call request | elsewhere surroundings =>
      cases turns
  | turn other =>
      obtain rfl : other = actor := by
        simpa [isTurnOf] using turns
      rfl

namespace Job

/-- The job of a start that has failed, while there are listeners to stop. -/
def dropsListeners : Job σ → Bool
  | stop (some (.rollback _)) (.dismiss _)
  | stop (some (.rollback _)) (.await _) => true
  | _ => false

/-- A job that drops listeners handles them. -/
theorem handles_of_drops
    {job : Job σ}
    (drops : job.dropsListeners = true) :
    job.handles = true := by
  cases job with
  | stop purpose stopping =>
      cases stopping with
      | take =>
          cases purpose with
          | none =>
              cases drops
          | some purpose =>
              cases purpose <;> cases drops
      | dismiss listeners | await listeners =>
          rfl
  | _ =>
      cases drops

/-- The start has composed the service, and the host is not running yet. -/
def hasComposed : Job σ → Bool
  | listen _ _ | keep _ _ | turnHeartbeatOn | enterRunning => true
  | _ => false

/-- A start that has composed its application has published its endpoints. -/
theorem hasPublished_of_hasComposed
    {job : Job σ}
    (composed : job.hasComposed = true) :
    job.hasPublished = true := by
  cases job with
  | listen service hasContext | keep service listeners
  | turnHeartbeatOn | enterRunning =>
      rfl
  | _ =>
      cases composed

end Job

namespace Blueprint

variable
  {blueprint : Blueprint σ ρ}
  {host : Host σ ρ}
  {job : Job σ}
  {turn : Turn σ ρ}

/-- A service cannot be composed when its workers are more than can be counted. -/
theorem uncountable_of_none
    (broken : Posture.ofSettings? blueprint.settings = none) :
    mostPermits < blueprint.settings.workerThreads.toNat := by
  unfold Posture.ofSettings? at broken
  dsimp only at broken
  split at broken
  · next many =>
    exact many
  · cases broken

/-- A start that has composed the service had workers that can be counted. -/
theorem hasComposed_of_step
    (stepped : blueprint.step host job = some turn)
    (composed : turn.next.hasComposed = true) :
    job.hasComposed = true ∨
      blueprint.settings.workerThreads.toNat ≤ mostPermits := by
  have published := Job.hasPublished_of_hasComposed composed
  cases job with
  | listen service hasContext | keep service listeners
  | turnHeartbeatOn | enterRunning =>
      exact .inl rfl
  | compose chain hasContext =>
      right
      by_contra many
      have none : Posture.ofSettings? blueprint.settings = none :=
        if_pos (Nat.lt_of_not_le many)
      simp only [step, none] at stepped
      cases stepped
      cases composed
  | withdraw purpose withdrawal =>
      cases stepped
      exact absurd published (not_published_of_withdrawal purpose withdrawal)
  | stop purpose stopping =>
      exact absurd published (not_published_of_stopping stepped)
  | offer endpoints =>
      cases endpoints with
      | nil =>
          cases stepped
          cases composed
      | cons endpoint rest =>
          simp only [step] at stepped
          (repeat' split at stepped) <;>
            cases stepped <;>
              cases composed
  | runHooks phase failures hooks =>
      cases hooks with
      | nil =>
          cases stepped
          cases phase with
          | startup =>
              simp only [afterHooks] at composed
              split at composed <;>
                cases composed
          | shutdown =>
              cases composed
      | cons hook rest =>
          cases stepped
          cases composed
  | runHook phase failures hook actions rest =>
      cases actions with
      | nil =>
          cases stepped
          cases phase with
          | startup =>
              simp only [endHook] at composed
              split at composed <;>
                cases composed
          | shutdown =>
              cases composed
      | cons action others =>
          cases stepped
          cases action with
          | shutdown =>
              simp only [act] at composed
              split at composed <;>
                cases composed
          | _ =>
              cases composed
  | reportClaim claim =>
      cases claim <;>
        cases stepped <;>
          cases composed
  | _ =>
      simp only [step, proceed] at stepped
      (repeat' split at stepped) <;>
        cases stepped <;>
          cases composed

/-- What a job that takes no step waits for. -/
inductive Awaits (host : Host σ ρ) : Job σ → Prop where
  | signal
      (unsignalled : host.signalled = false) :
      Awaits host .awaitSignal
  | listener
      {purpose : Option Purpose}
      {listener : Listener}
      {rest : List Listener}
      (serving : host.network.isOpen listener.handle = true) :
      Awaits host (.stop purpose (.await (listener :: rest)))

/-- A job that takes no step is over, or waits for the signal or for a listener. -/
theorem awaits_of_step_eq_none
    (halted : blueprint.step host job = none) :
    job.isOver = true ∨ Awaits host job := by
  cases job with
  | done outcome | brokenDown =>
      exact .inl rfl
  | awaitSignal =>
      cases signalled : host.signalled with
      | false =>
          exact .inr (.signal signalled)
      | true =>
          simp [step, signalled] at halted
  | stop purpose stopping =>
      cases stopping with
      | take | dismiss listeners =>
          cases halted
      | await listeners =>
          cases listeners with
          | nil =>
              cases halted
          | cons listener rest =>
              cases serving : host.network.isOpen listener.handle with
              | false =>
                  simp [step, stoppingStep, serving] at halted
              | true =>
                  exact .inr (.listener serving)
  | runHooks phase failures hooks =>
      cases hooks <;>
        cases halted
  | runHook phase failures hook actions rest =>
      cases actions <;>
        cases halted
  | offer endpoints =>
      cases endpoints with
      | nil =>
          cases halted
      | cons endpoint rest =>
          simp only [step] at halted
          split at halted <;>
            cases halted
  | _ =>
      simp only [step] at halted
      (repeat' split at halted) <;>
        cases halted

/-- A start that fails has no listeners to stop, when the host has none. -/
theorem not_drops_of_step
    (stepped : blueprint.step host job = some turn)
    (vacant :
      job.phase? = some .startup →
        job.hasKept = false →
          host.listening = none)
    (before : job.dropsListeners = false) :
    turn.next.dropsListeners = false := by
  rw [Bool.eq_false_iff]
  intro drops
  cases handling_of_step stepped with
  | idle listening network empty nothing unready own cleared =>
      have busy := Job.handles_of_drops drops
      rw [nothing] at busy
      cases busy
  | takes network listening next =>
      rename_i purpose
      rcases next with ⟨next, -⟩ | ⟨next, present⟩ <;>
        rw [next] at drops
      · rcases purpose with _ | failure | _ <;>
          cases drops
      · rcases purpose with _ | failure | _
        case some.rollback =>
          rw [Host.listeners, vacant rfl rfl] at present
          exact present rfl
        all_goals cases drops
  | dismisses network listening next =>
      rename_i purpose _
      rw [next] at drops
      rcases purpose with _ | failure | _
      case some.rollback => cases before
      all_goals cases drops
  | ends finished same next =>
      rename_i purpose _ _
      rw [next] at drops
      rcases purpose with _ | failure | _
      case some.rollback => cases before
      all_goals cases drops
  | keeps network listening next =>
      rcases next with next | next <;>
        rw [next] at drops <;>
          cases drops
  | opens opened network listening next
  | fails network listening next =>
      rw [next] at drops
      cases drops

end Blueprint

namespace Scene

variable
  {blueprint : Blueprint σ ρ}
  {scene : Scene σ ρ}

/-- No start that has failed has listeners to stop. -/
theorem Reachable.dropless
    (reachable : Reachable blueprint scene) :
    ∀ errand ∈ scene.errands, errand.job.dropsListeners = false := by
  refine
    reachable.eachErrand
      (fun errand => errand.job.dropsListeners = false) ?_ rfl ?_
  · intro request
    cases request <;> rfl
  · intro scene errand turn reached member stepped dropless
    exact Blueprint.not_drops_of_step stepped
      (reached.unheard.rising errand member) dropless

/-- Every step of an errand brings it closer to its end. -/
theorem Reachable.advances
    (reachable : Reachable blueprint scene)
    {errand : Errand σ}
    {turn : Turn σ ρ}
    (member : errand ∈ scene.errands)
    (stepped : blueprint.step scene.host errand.job = some turn) :
    Blueprint.Advances blueprint errand.job turn.next := by
  refine Blueprint.advances_of_step stepped reachable.sized.host ?_
  intro purpose withdraws
  have books := reachable.balanced.jobs errand member
  rw [withdraws] at books
  have tracked :
      scene.host.registrar.tracked = scene.accepted blueprint :=
    books.tracked
  rw [tracked]
  exact books.accepted.length_le

/-- What an errand has done and what is left of it never come to more than a bound. -/
theorem Reachable.bounded
    (reachable : Reachable blueprint scene) :
    Each
      (fun scene actor errand =>
        (scene.deeds actor).length + errand.job.stepsLeft blueprint ≤
          blueprint.mostSteps)
      scene := by
  have rollBack := blueprint.stepsToRollBack_lt
  refine reachable.each ?_ ?_ ?_ ?_ ?_ ?_
  · intro scene request reached
    have idle : (scene.call request).deeds scene.errands.length = [] :=
      deeds_eq_nil reached.sound (Nat.le_refl _)
    rw [idle]
    cases request <;>
      simp only [Demand.job, Job.stopListeners, Job.stepsLeft,
        Stopping.stepsLeft, Blueprint.stepsAfterStop,
        Blueprint.mostSteps, Blueprint.stepsToPublish,
        Blueprint.stepsToOpen, List.length_nil] <;>
      omega
  · intro scene request actor errand bounded
    exact bounded
  · intro scene actor errand turn reached found stepped bounded
    have nearer :=
      (reached.advances (List.mem_of_getElem? found) stepped).nearer
    rw [deeds_turned, if_pos rfl, List.length_append, List.length_singleton]
    dsimp only
    omega
  · intro scene actor acting turn other errand _ _ _ different _
      bounded
    rw [deeds_turned, if_neg (Ne.symm different), List.append_nil]
    exact bounded
  · intro scene actor acting turn other reached inside absent
    have idle : scene.deeds other = [] :=
      deeds_eq_nil reached.sound absent
    have different : other ≠ actor := by
      omega
    rw [deeds_turned, if_neg (Ne.symm different), idle]
    simp only [Job.stepsLeft, Blueprint.mostSteps,
      Blueprint.stepsToPublish, Blueprint.stepsToOpen, List.append_nil,
      List.length_nil]
    omega
  · intro scene surroundings actor errand bounded
    exact bounded

/-- Only workers that cannot be counted break a start down. -/
theorem Reachable.whole
    (reachable : Reachable blueprint scene) :
    ∀ errand ∈ scene.errands,
      errand.job.isBroken = true →
      mostPermits < blueprint.settings.workerThreads.toNat := by
  refine
    reachable.eachErrand
      (fun errand =>
        errand.job.isBroken = true →
          mostPermits < blueprint.settings.workerThreads.toNat)
      ?_ (fun broken => nomatch broken) ?_
  · intro request broken
    cases request <;> cases broken
  · intro scene errand turn reached member stepped _ broken
    have advances := reached.advances member stepped
    exact Blueprint.uncountable_of_none (advances.whole broken)

/-- With a number of workers the limiter can count, nothing ever breaks down. -/
theorem Reachable.not_broken
    (reachable : Reachable blueprint scene)
    (countable : blueprint.settings.workerThreads.toNat ≤ mostPermits)
    {errand : Errand σ}
    (member : errand ∈ scene.errands) :
    errand.job.isBroken = false := by
  rw [Bool.eq_false_iff]
  intro broken
  have many := reachable.whole errand member broken
  exact absurd countable (Nat.not_le.mpr many)

/-- Whoever has composed the service had workers that can be counted. -/
theorem Reachable.composed
    (reachable : Reachable blueprint scene) :
    ∀ errand ∈ scene.errands,
      errand.job.hasComposed = true →
      blueprint.settings.workerThreads.toNat ≤ mostPermits := by
  refine
    reachable.eachErrand
      (fun errand =>
        errand.job.hasComposed = true →
          blueprint.settings.workerThreads.toNat ≤ mostPermits)
      ?_ (fun composed => nomatch composed) ?_
  · intro request composed
    cases request <;> cases composed
  · intro scene errand turn _ _ stepped counted composed
    rcases Blueprint.hasComposed_of_step stepped composed with
      before | countable
    · exact counted before
    · exact countable

/-- A host that has ever been running has workers that can be counted. -/
theorem Reachable.countable_of_ran
    (reachable : Reachable blueprint scene)
    (ran : State.running ∈ scene.trail) :
    blueprint.settings.workerThreads.toNat ≤ mostPermits := by
  obtain ⟨deed, member, entered⟩ := List.mem_filterMap.mp ran
  obtain ⟨past, done⟩ := reachable.past member
  have counted :=
    done.reachable.composed _ (List.mem_of_getElem? done.errand)
  have passage := reachable.passage member
  obtain ⟨actor, request, job, before, turn⟩ := deed
  change Passage before job turn at passage
  cases passage with
  | stay state phase unreported spawned =>
      simp [Deed.entered?, state] at entered
  | move shift =>
      cases shift with
      | started source =>
          exact counted rfl
      | _ =>
          simp [Deed.entered?] at entered

/-- A start in charge of its host always has a step to take, unless it has broken down. -/
theorem Reachable.step_of_startup
    (reachable : Reachable blueprint scene)
    {errand : Errand σ}
    (member : errand ∈ scene.errands)
    (charged : errand.job.phase? = some .startup)
    (whole : errand.job.isBroken = false) :
    ∃ turn, blueprint.step scene.host errand.job = some turn := by
  apply Option.ne_none_iff_exists'.mp
  intro halted
  have dropless := reachable.dropless errand member
  obtain ⟨request, job⟩ := errand
  rcases Blueprint.awaits_of_step_eq_none halted with finished | waits
  · cases job with
    | done outcome =>
        cases charged
    | brokenDown =>
        cases whole
    | _ =>
        cases finished
  · cases waits with
    | signal unsignalled =>
        cases charged
    | listener serving =>
        rename_i purpose _ _
        match purpose with
        | some (.rollback failure) =>
            cases dropless

/-- The start that is in charge, as long as one is, has so many steps left at most. -/
structure NearsStart
    (blueprint : Blueprint σ ρ)
    (actor distance : Nat)
    (scene : Scene σ ρ) : Prop where
  asked : scene.host.state ≠ .notStarted
  near :
    scene.host.state = .starting →
      ∃ errand,
        scene.errands[actor]? = some errand ∧
        errand.job.phase? = some .startup ∧
        errand.job.stepsLeft blueprint ≤ distance

/-- A host that is starting and had been asked to was starting before. -/
theorem starting_of_starting
    (governed : Governed scene)
    (asked : scene.host.state ≠ .notStarted)
    {happening : Happening ρ}
    (starting :
      (scene.after blueprint happening).host.state = .starting) :
    scene.host.state = .starting := by
  have moves :
      (scene.after blueprint happening).host.state = scene.host.state ∨
        State.Move scene.host.state
          (scene.after blueprint happening).host.state :=
    governed.moves happening
  rcases moves with same | moves
  · exact same.symm.trans starting
  · rw [starting] at moves
    cases before : scene.host.state with
    | notStarted =>
        exact absurd before asked
    | starting =>
        rfl
    | _ =>
        rw [before] at moves
        cases moves

/-- Whatever happens, a turn of the caller brings its start one step nearer. -/
theorem NearsStart.after
    {actor distance : Nat}
    (countable : blueprint.settings.workerThreads.toNat ≤ mostPermits)
    (nears : NearsStart blueprint actor distance scene)
    (reachable : Reachable blueprint scene)
    (happening : Happening ρ) :
    NearsStart blueprint actor
      (distance - if happening.isTurnOf actor then 1 else 0)
      (scene.after blueprint happening) := by
  constructor
  · intro fresh
    have moves :
        (scene.after blueprint happening).host.state = scene.host.state ∨
          State.Move scene.host.state
            (scene.after blueprint happening).host.state :=
      reachable.governed.moves happening
    rcases moves with same | moves
    · exact nears.asked (same.symm.trans fresh)
    · rw [fresh] at moves
      exact absurd moves State.not_move_notStarted
  · intro starting
    have before :=
      starting_of_starting reachable.governed nears.asked starting
    obtain ⟨errand, found, charged, near⟩ := nears.near before
    cases turns : happening.isTurnOf actor with
    | false =>
        exact
          ⟨errand, errand_after blueprint found turns, charged, near⟩
    | true =>
        obtain rfl := Happening.eq_turn turns
        have member := List.mem_of_getElem? found
        obtain ⟨turn, stepped⟩ :=
          reachable.step_of_startup member charged
            (reachable.not_broken countable member)
        have shape :
            scene.after blueprint (.turn actor) =
              scene.turned actor errand turn := by
          simp [Scene.after, found, stepped]
        have nearer := (reachable.advances member stepped).nearer
        rw [shape] at starting ⊢
        refine ⟨_, errand_self found turn, ?_, ?_⟩
        · cases reachable.governed.passage found stepped with
          | stay state phase unreported spawned =>
              exact phase.trans charged
          | move shift =>
              exact absurd (starting.trans before.symm) shift.moves.ne
        · show turn.next.stepsLeft blueprint ≤ distance - 1
          omega

/--
With workers that can be counted a host is not starting for long: a start still in
charge would have no step left, and yet it can take one.
-/
theorem Reachable.leaves_starting
    (reachable : Reachable blueprint scene)
    (countable : blueprint.settings.workerThreads.toNat ≤ mostPermits)
    (starting : scene.host.state = .starting) :
    ∃ actor,
      ∀ schedule : List (Happening ρ),
        blueprint.mostSteps ≤
            schedule.countP (Happening.isTurnOf actor) →
          (scene.run blueprint schedule).host.state ≠ .starting := by
  have listed : Phase.startup ∈ scene.charges := by
    rw [reachable.governed.charges, starting]
    exact List.mem_singleton_self _
  obtain ⟨errand, member, charged⟩ := List.mem_filterMap.mp listed
  obtain ⟨actor, found⟩ := List.getElem?_of_mem member
  refine ⟨actor, ?_⟩
  intro schedule enough left
  have bounded := reachable.bounded actor errand found
  have near : NearsStart blueprint actor blueprint.mostSteps scene :=
    { asked := by
        rw [starting]
        exact State.noConfusion
      near := fun _ =>
        ⟨errand, found, charged,
          Nat.le_trans (Nat.le_add_left _ _) bounded⟩ }
  have arrived : NearsStart blueprint actor 0 (scene.run blueprint schedule) :=
    reachable.arrives
      (fun _ happening _ reached nears =>
        nears.after countable reached happening)
      near enough
  obtain ⟨last, there, held, finished⟩ := arrived.near left
  have reached := reachable.run schedule
  have present := List.mem_of_getElem? there
  obtain ⟨turn, stepped⟩ :=
    reached.step_of_startup present held
      (reached.not_broken countable present)
  have nearer := (reached.advances present stepped).nearer
  omega

/-- What is left behind by a start that has broken down. -/
structure Stuck
    (blueprint : Blueprint σ ρ)
    (scene : Scene σ ρ) : Prop where
  state : scene.host.state = .starting
  published : blueprint.TracksAll scene.host
  deferred : scene.host.claimShutdown.1 = .deferred

/--
A start that has broken down leaves its host starting for good, since it keeps its
charge and nobody else can move the state.
-/
theorem Reachable.stuck
    (reachable : Reachable blueprint scene)
    {errand : Errand σ}
    (member : errand ∈ scene.errands)
    (broken : errand.job.isBroken = true)
    (schedule : List (Happening ρ)) :
    Stuck blueprint (scene.run blueprint schedule) := by
  obtain ⟨actor, found⟩ := List.getElem?_of_mem member
  have down : errand.job = .brokenDown := by
    cases job : errand.job <;>
      simp [job, Job.isBroken] at broken
    rfl
  induction schedule generalizing scene with
  | nil =>
      have charged : errand.job.phase? = some .startup := by
        rw [down]
        rfl
      have starting : scene.host.state = .starting :=
        reachable.governed.state_eq found charged
      refine { state := starting, published := ?_, deferred := ?_ }
      · exact reachable.published.jobs errand member (by rw [down]; rfl)
      · show scene.host.claimShutdown.1 = .deferred
        simp only [Host.claimShutdown, starting]
  | cons happening rest inductionHypothesis =>
      have stays :
          (scene.after blueprint happening).errands[actor]? =
            some errand := by
        cases turns : happening.isTurnOf actor with
        | false =>
            exact errand_after blueprint found turns
        | true =>
            obtain rfl := Happening.eq_turn turns
            have halted :
                blueprint.step scene.host errand.job = none := by
              rw [down]
              rfl
            simp [Scene.after, found, halted]
      exact inductionHypothesis (reachable.after happening)
        (List.mem_of_getElem? stays) stays

/-- Every errand comes to its end, unless the workers cannot be counted. -/
structure Returns
    (blueprint : Blueprint σ ρ)
    (scene : Scene σ ρ) : Prop where
  /-- An errand takes no more steps than a bound allows. -/
  bounded :
    ∀ actor errand,
      scene.errands[actor]? = some errand →
      (scene.deeds actor).length + errand.job.stepsLeft blueprint ≤
        blueprint.mostSteps
  /-- An errand that takes no step is over, or waits for the signal or for a listener. -/
  waits :
    ∀ errand ∈ scene.errands,
      blueprint.step scene.host errand.job = none →
      errand.job.isOver = true ∨
        Blueprint.Awaits scene.host errand.job
  /-- A start does not wait for anything while its host is starting. -/
  goesOn :
    ∀ errand ∈ scene.errands,
      errand.job.phase? = some .startup →
      errand.job.isBroken = false →
      ∃ turn, blueprint.step scene.host errand.job = some turn
  /-- With workers that can be counted nothing breaks down. -/
  whole :
    blueprint.settings.workerThreads.toNat ≤ mostPermits →
      ∀ errand ∈ scene.errands, errand.job.isBroken = false
  /-- With workers that cannot be counted a host never runs. -/
  barred :
    mostPermits < blueprint.settings.workerThreads.toNat →
      State.running ∉ scene.trail
  /-- With workers that can be counted a host is not starting for long. -/
  leaves :
    blueprint.settings.workerThreads.toNat ≤ mostPermits →
      scene.host.state = .starting →
      ∃ actor,
        ∀ schedule : List (Happening ρ),
          blueprint.mostSteps ≤
              schedule.countP (Happening.isTurnOf actor) →
            (scene.run blueprint schedule).host.state ≠ .starting
  /-- A start that has broken down leaves its host starting for good. -/
  stuck :
    ∀ errand ∈ scene.errands,
      errand.job.isBroken = true →
      ∀ schedule, Stuck blueprint (scene.run blueprint schedule)

/--
Under every interleaving of starts, stops and shutdowns, workers that cannot be
counted are the only thing that keeps an errand from coming to its end.
-/
theorem returnsInTime
    (blueprint : Blueprint σ ρ)
    (surroundings : Surroundings ρ)
    (schedule : List (Happening ρ)) :
    Returns blueprint
      (run blueprint (opening surroundings) schedule) := by
  have reachable :
      Reachable blueprint
        (run blueprint (opening surroundings) schedule) :=
    ⟨surroundings, schedule, rfl⟩
  generalize run blueprint (opening surroundings) schedule = scene
    at reachable
  constructor
  case bounded => exact reachable.bounded
  case waits =>
    intro errand _ halted
    exact Blueprint.awaits_of_step_eq_none halted
  case goesOn =>
    intro errand member charged whole
    exact reachable.step_of_startup member charged whole
  case whole =>
    intro countable errand member
    exact reachable.not_broken countable member
  case barred =>
    intro many ran
    exact absurd (reachable.countable_of_ran ran) (Nat.not_le.mpr many)
  case leaves => exact reachable.leaves_starting
  case stuck =>
    intro errand member broken later
    exact reachable.stuck member broken later

/-- A host with one worker more than can be counted, and nothing wrong with its settings. -/
def overstaffed : Blueprint Unit Directory where
  settings :=
    { enableRegistry := true
      serviceId := "ledger"
      workerThreads := .ofNat (mostPermits + 1) }
  plugins :=
    (({} : Plugins Unit Directory).provide .answer
      { name := "root"
        handler := some fun _ => .done { status := 200 } }).provide
        .keepEndpoints Directory.registry
  material := .memory []
  handlesSignals := false

/-- A start breaks down with its endpoint published, and shutdowns are put off for good. -/
theorem breaksDown_of_overstaffed :
    let surroundings : Surroundings Directory :=
      { registry := {}, network := { rules := .standard } }
    let schedule :=
      .call .start :: List.replicate 12 (.turn 0) ++
        [.call .shutdown, .turn 1, .turn 1]
    let scene := run overstaffed (opening surroundings) schedule
    overstaffed.settings.problems = [] ∧
      scene.errands.map (fun errand => errand.job.isBroken) =
        [true, false] ∧
      scene.errands.map (fun errand => errand.job.isOver) =
        [true, true] ∧
      scene.host.state = .starting ∧
      scene.host.registrar.tracked.length = 1 ∧
      scene.host.shutdownPending = true ∧
      ∀ later, Stuck overstaffed (scene.run overstaffed later) := by
  intro surroundings schedule scene
  have reachable : Reachable overstaffed scene :=
    ⟨surroundings, schedule, rfl⟩
  have breaks :
      (scene.errands.any fun errand => errand.job.isBroken) = true := by
    decide +kernel
  obtain ⟨errand, member, broken⟩ := List.any_eq_true.mp breaks
  refine ⟨?_, ?_, ?_, ?_, ?_, ?_, reachable.stuck member broken⟩ <;>
    decide +kernel

end Scene

end PluggableHost.Lifecycle
