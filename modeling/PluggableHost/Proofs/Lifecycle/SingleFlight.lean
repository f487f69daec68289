import PluggableHost.Proofs.Lifecycle.Charge
import PluggableHost.Proofs.Lifecycle.Draining
import PluggableHost.Proofs.Lifecycle.SeeingOff

namespace PluggableHost.Lifecycle

open PluggableHost.Net PluggableHost.Observability PluggableHost.Plugin PluggableHost.Registry

/-!
# One shutdown at most

However many ask for a shutdown, one actor at most carries it out, and does so in
the order of the course.  What hooks and the registry return makes no difference.
-/

variable {σ ρ : Type}

/-- Items that yield nothing may be left out. -/
theorem flatMap_filter_of_silent
    {α β : Type}
    {items : List α}
    {select : α → Bool}
    {yield : α → List β}
    (silent : ∀ item ∈ items, select item = false → yield item = []) :
    (items.filter select).flatMap yield = items.flatMap yield := by
  induction items with
  | nil =>
      rfl
  | cons item rest inductionHypothesis =>
      have others :=
        inductionHypothesis fun other member =>
          silent other (List.mem_cons_of_mem _ member)
      cases chosen : select item with
      | true =>
          rw [List.filter_cons_of_pos chosen, List.flatMap_cons,
            List.flatMap_cons, others]
      | false =>
          rw [List.filter_cons_of_neg (by simp [chosen]),
            List.flatMap_cons, silent item List.mem_cons_self chosen,
            List.nil_append, others]

namespace Job

/-- The startup hooks that are left for a job to run. -/
def startupHooks : Job σ → List Hook
  | runHooks .startup _ hooks => hooks
  | runHook .startup _ _ _ rest => rest
  | _ => []

end Job

namespace Blueprint

variable
  {blueprint : Blueprint σ ρ}
  {host : Host σ ρ}
  {job : Job σ}
  {turn : Turn σ ρ}

/-- A withdrawal runs no startup hook. -/
theorem startupHooks_of_withdrawal
    (purpose : Purpose)
    (withdrawal : Withdrawal) :
    (blueprint.withdrawalStep host purpose withdrawal).next.startupHooks =
      [] := by
  cases withdrawal with
  | untrack endpoints =>
      cases endpoints with
      | nil =>
          cases purpose <;> rfl
      | cons endpoint rest =>
          rfl
  | tell endpoint rest =>
      unfold withdrawalStep
      dsimp only
      split <;> rfl

/-- A stop runs no startup hook. -/
theorem startupHooks_of_stopping
    {purpose : Option Purpose}
    {stopping : Stopping}
    (stepped : stoppingStep host purpose stopping = some turn) :
    turn.next.startupHooks = [] := by
  have after : (Job.afterStop purpose : Job σ).startupHooks = [] := by
    cases purpose with
    | none =>
        rfl
    | some purpose =>
        cases purpose <;> rfl
  cases stopping with
  | take =>
      cases stepped
      dsimp only
      split
      · exact after
      · rfl
  | dismiss listeners =>
      cases stepped
      rfl
  | await listeners =>
      cases listeners with
      | nil =>
          cases stepped
          exact after
      | cons listener rest =>
          simp only [stoppingStep] at stepped
          split at stepped <;> cases stepped
          rfl

/-- A start takes up the startup hooks of the host, and never another. -/
theorem startupHooks_of_step
    (stepped : blueprint.step host job = some turn)
    (own : job.startupHooks ⊆ blueprint.startupHooks) :
    turn.next.startupHooks ⊆ blueprint.startupHooks := by
  cases job with
  | validate =>
      simp only [step] at stepped
      split at stepped <;> cases stepped
      · exact List.Subset.refl _
      · exact List.nil_subset _
  | runHooks phase failures hooks =>
      cases hooks with
      | nil =>
          cases stepped
          cases phase with
          | startup =>
              simp only [afterHooks]
              split <;> exact List.nil_subset _
          | shutdown =>
              exact List.nil_subset _
      | cons hook rest =>
          cases stepped
          cases phase with
          | startup =>
              exact List.Subset.trans (List.subset_cons_self hook rest) own
          | shutdown =>
              exact List.nil_subset _
  | runHook phase failures hook actions rest =>
      cases actions with
      | nil =>
          cases stepped
          cases phase with
          | startup =>
              simp only [endHook]
              split
              · exact List.nil_subset _
              · exact own
          | shutdown =>
              exact List.nil_subset _
      | cons action others =>
          cases stepped
          rw [next_act]
          cases phase with
          | startup =>
              exact own
          | shutdown =>
              exact List.nil_subset _
  | withdraw purpose withdrawal =>
      cases stepped
      rw [startupHooks_of_withdrawal]
      exact List.nil_subset _
  | stop purpose stopping =>
      rw [startupHooks_of_stopping stepped]
      exact List.nil_subset _
  | claim =>
      cases stepped
      exact List.nil_subset _
  | reportClaim claim =>
      cases claim <;>
        cases stepped <;>
          exact List.nil_subset _
  | offer endpoints =>
      cases endpoints with
      | nil =>
          cases stepped
          exact List.nil_subset _
      | cons endpoint rest =>
          simp only [step] at stepped
          (repeat' split at stepped) <;>
            cases stepped <;>
              exact List.nil_subset _
  | _ =>
      simp only [step, proceed] at stepped
      (repeat' split at stepped) <;>
        cases stepped <;>
          exact List.nil_subset _

end Blueprint

namespace Scene

variable
  {blueprint : Blueprint σ ρ}
  {scene : Scene σ ρ}

/-! ## Hooks -/

/-- The names of the hooks that were invoked while the host was in a state, in order. -/
def hooksRunIn
    (scene : Scene σ ρ)
    (state : State) : List String :=
  (scene.history.filter fun deed => deed.before.state == state).flatMap
    fun deed => hooksRun deed.turn.journal

/-- A start has none but the startup hooks of the host to run. -/
theorem Reachable.startupHooks
    (reachable : Reachable blueprint scene) :
    ∀ errand ∈ scene.errands,
      errand.job.startupHooks ⊆ blueprint.startupHooks := by
  refine
    reachable.eachErrand
      (fun errand => errand.job.startupHooks ⊆ blueprint.startupHooks)
      ?_ (List.nil_subset _) ?_
  · intro request
    cases request <;> exact List.nil_subset _
  · intro scene errand turn _ _ stepped own
    exact Blueprint.startupHooks_of_step stepped own

/-- A hook that is invoked when the host does not shut down is one of the startup hooks. -/
theorem Reachable.startupHook_of_hooksRun
    (reachable : Reachable blueprint scene)
    {deed : Deed σ ρ}
    (member : deed ∈ scene.history)
    (other : deed.before.state ≠ .shuttingDown)
    {hook : String}
    (ran : hook ∈ hooksRun deed.turn.journal) :
    deed.before.state = .starting ∧
      hook ∈ blueprint.startupHooks.map Hook.name := by
  have inPlace := reachable.inPlace member
  have writes :=
    Blueprint.writes_of_step (reachable.sound.stepped deed member) inPlace
  obtain ⟨past, done⟩ := reachable.past member
  have own :=
    done.reachable.startupHooks _ (List.mem_of_getElem? done.errand)
  rw [writes.ran] at ran
  dsimp only at own
  cases job : deed.job with
  | runHooks phase failures hooks =>
      rw [job] at ran own inPlace
      have state : deed.before.state = State.ofPhase phase :=
        State.phase?_eq_some.mp (inPlace phase rfl)
      cases hooks with
      | nil =>
          exact absurd ran List.not_mem_nil
      | cons first rest =>
          cases phase with
          | startup =>
              refine ⟨state, ?_⟩
              rw [List.mem_singleton.mp ran]
              exact List.mem_map_of_mem (own List.mem_cons_self)
          | shutdown =>
              exact absurd state other
  | _ =>
      rw [job] at ran
      exact absurd ran List.not_mem_nil

/-- Whoever is neither starting the host nor in charge of its shutdown is in charge of nothing. -/
theorem Reachable.idle
    (reachable : Reachable blueprint scene)
    {deed : Deed σ ρ}
    (member : deed ∈ scene.history)
    (begun : deed.before.state ≠ .starting)
    (other :
      deed.before.state = .shuttingDown → ¬ scene.TookCharge deed.actor) :
    deed.job.phase? = none := by
  cases charged : deed.job.phase? with
  | none =>
      rfl
  | some phase =>
      have state : deed.before.state = State.ofPhase phase :=
        State.phase?_eq_some.mp (reachable.inPlace member phase charged)
      cases phase with
      | startup =>
          exact absurd state begun
      | shutdown =>
          exact
            absurd ((reachable.charged_iff member state).mp charged)
              (other state)

/-- Whoever is in charge of nothing takes listeners for a stop of its own, or moves a state. -/
theorem Reachable.effects_of_idle
    (reachable : Reachable blueprint scene)
    {deed : Deed σ ρ}
    (member : deed ∈ scene.history)
    (idle : deed.job.phase? = none) :
    deed.effects = [] ∨
      (deed.request = .stop ∧
        ∃ listeners,
          deed.taken? = some listeners ∧
            deed.effects = [.tookListeners listeners]) ∨
      (deed.before.state = .notStarted ∧ deed.effects = [.stopped]) := by
  have stepped := reachable.sound.stepped deed member
  have inPlace := reachable.inPlace member
  obtain ⟨past, done⟩ := reachable.past member
  cases reachable.passage member with
  | stay state phase unreported spawned =>
      rcases deed.effects_of_idle stepped inPlace idle state with
        nothing | ⟨own, listeners, taken, takes⟩
      · exact .inl nothing
      · have asked :=
          done.reachable.askedToStop _ (List.mem_of_getElem? done.errand)
            own
        exact .inr (.inl ⟨asked, listeners, taken, takes⟩)
  | move shift =>
      have effects := Deed.effects_of_shift stepped inPlace shift
      by_cases stopped : deed.turn.host.state = .stopped
      · rw [if_pos stopped] at effects
        have fresh : deed.before.state = .notStarted := by
          have moves := shift.moves
          have free := shift.charge.1.symm.trans idle
          rw [stopped] at moves
          generalize deed.before.state = source at moves free
          cases moves with
          | neverStarted =>
              rfl
          | startFailed | finish =>
              cases free
        exact .inr (.inr ⟨fresh, effects⟩)
      · exact .inl (effects.trans (if_neg stopped))

/-- While a host shuts down, hooks are invoked by whoever is in charge of that. -/
theorem Reachable.hooksRunIn_shuttingDown
    (reachable : Reachable blueprint scene)
    {actor : Nat}
    (took : scene.TookCharge actor) :
    scene.hooksRunIn .shuttingDown =
      (scene.shutdownBy actor).filterMap Effect.hook? := by
  have silent
      (deed : Deed σ ρ)
      (member : deed ∈ scene.history)
      (closing : deed.before.state = .shuttingDown)
      (other : deed.actor ≠ actor) :
      hooksRun deed.turn.journal = [] := by
    have idle : deed.job.phase? = none := by
      refine reachable.idle member (by rw [closing]; decide) ?_
      intro _ another
      exact other (reachable.tookCharge_unique another took)
    rw [← deed.hooks_of_effects]
    rcases reachable.effects_of_idle member idle with
      effects | ⟨-, listeners, -, effects⟩ | ⟨-, effects⟩ <;>
      rw [effects] <;>
        rfl
  have all :
      scene.history.filter (Deed.closes actor) =
        (scene.history.filter fun deed =>
          deed.before.state == .shuttingDown).filter
            fun deed => deed.actor == actor := by
    rw [List.filter_filter]
    rfl
  rw [shutdownBy, List.filterMap_flatMap, all]
  simp only [Deed.hooks_of_effects]
  refine (flatMap_filter_of_silent ?_).symm
  intro deed member other
  obtain ⟨present, closing⟩ := List.mem_filter.mp member
  exact
    silent deed present (by simpa using closing) (by simpa using other)

/-- The hooks of the course are the shutdown hooks. -/
theorem hooks_of_course
    (blueprint : Blueprint σ ρ)
    (accepted : List Endpoint)
    (lit : Bool)
    (found : Option (List Listener)) :
    (blueprint.course accepted lit found).filterMap Effect.hook? =
      blueprint.shutdownHooks.map Hook.name := by
  have dark :
      (if lit then [Effect.heartbeatOff] else []).filterMap
          Effect.hook? = [] := by
    split <;> rfl
  have withdrawn :
      (accepted.map Effect.withdrew).filterMap Effect.hook? = [] := by
    simp [List.filterMap_map, Effect.hook?]
  have hooks :
      (blueprint.shutdownHooks.map fun hook =>
          Effect.ranHook hook.name).filterMap Effect.hook? =
        blueprint.shutdownHooks.map Hook.name := by
    simp [List.filterMap_map, Effect.hook?, Function.comp_def]
  have ending : (Effect.ending found).filterMap Effect.hook? = [] := by
    cases found <;> rfl
  simp only [Blueprint.course, Blueprint.closing, List.filterMap_append,
    dark, withdrawn, hooks, ending, List.nil_append, List.append_nil]

/-- A host that has not shut down has invoked no hooks for that. -/
theorem Reachable.hooksRunIn_eq_nil
    (reachable : Reachable blueprint scene)
    (never : .shuttingDown ∉ scene.trail) :
    scene.hooksRunIn .shuttingDown = [] := by
  have none :
      (scene.history.filter fun deed =>
        deed.before.state == .shuttingDown) = [] := by
    apply List.filter_eq_nil_iff.mpr
    intro deed member closing
    have state : deed.before.state = .shuttingDown := by
      simpa using closing
    have entered :=
      reachable.mem_trail_of_before member (by rw [state]; decide)
    rw [state] at entered
    exact never entered
  rw [hooksRunIn, none, List.flatMap_nil]

/-- A host that shuts down has somebody in charge of that. -/
theorem exists_tookCharge
    (entered : .shuttingDown ∈ scene.trail) :
    ∃ actor, scene.TookCharge actor := by
  obtain ⟨deed, member, into⟩ := List.mem_filterMap.mp entered
  exact ⟨deed.actor, deed, member, rfl, into⟩

/-- In a shutdown the shutdown hooks are invoked in their order, none twice. -/
theorem Reachable.hooksRunIn_prefix
    (reachable : Reachable blueprint scene) :
    scene.hooksRunIn .shuttingDown <+:
      blueprint.shutdownHooks.map Hook.name := by
  by_cases entered : .shuttingDown ∈ scene.trail
  · obtain ⟨actor, took⟩ := exists_tookCharge entered
    obtain ⟨lit, found, done⟩ := reachable.ordered took
    rw [reachable.hooksRunIn_shuttingDown took,
      ← hooks_of_course blueprint (scene.accepted blueprint) lit found]
    exact done.filterMap Effect.hook?
  · rw [reachable.hooksRunIn_eq_nil entered]
    exact List.nil_prefix

/-- A shutdown that has come to its end has invoked every shutdown hook. -/
theorem Reachable.hooksRunIn_of_stopped
    (reachable : Reachable blueprint scene)
    (entered : .shuttingDown ∈ scene.trail)
    (stopped : scene.host.state = .stopped) :
    scene.hooksRunIn .shuttingDown =
      blueprint.shutdownHooks.map Hook.name := by
  obtain ⟨actor, took⟩ := exists_tookCharge entered
  obtain ⟨lit, found, whole⟩ := reachable.concluded actor took stopped
  rw [reachable.hooksRunIn_shuttingDown took, whole, hooks_of_course]

/-- A shutdown that has come to its end has withdrawn each endpoint once. -/
theorem Reachable.withdrawals_of_stopped
    (reachable : Reachable blueprint scene)
    (stopped : scene.host.state = .stopped) :
    withdrawals scene.journal = scene.accepted blueprint ∧
      (scene.accepted blueprint).Nodup := by
  have books := reachable.balanced.state
  rw [stopped] at books
  have closed : (scene.ledger blueprint).Closed blueprint.endpoints :=
    books
  exact ⟨closed.withdrawn,
    closed.accepted.sublist.nodup
      (Registrar.nodup_endpointsFor _ _)⟩

/-- A shutdown comes to its end with no listener that it took and did not see off. -/
theorem Reachable.drained
    (reachable : Reachable blueprint scene)
    {earlier later : List (Deed σ ρ)}
    {deed : Deed σ ρ}
    (shape : scene.history = earlier ++ deed :: later)
    (closing : deed.before.state = .shuttingDown)
    (entered : deed.entered? = some .stopped) :
    deed.turn.host.listening = none ∧
      ∀ taking ∈ earlier,
        taking.actor = deed.actor →
        ∀ listeners,
          taking.taken? = some listeners →
            listeners = [] ∨ SeenOff earlier taking listeners [] := by
  obtain ⟨past, done, rfl⟩ :=
    reachable.chronicled earlier deed later shape
  have reached := done.reachable.turned done.errand done.stepped
  have passage :=
    done.reachable.governed.passage done.errand done.stepped
  have sees := done.reachable.seesOff _ _ done.errand
  obtain ⟨stopped, moved⟩ := Deed.entered?_eq_some_iff.mp entered
  refine ⟨reached.cleared.state stopped, ?_⟩
  intro taking member mine listeners taken
  have state := done.host
  obtain ⟨actor, request, job, before, turn⟩ := deed
  dsimp only at passage sees closing moved stopped state mine
  subst state
  cases passage with
  | stay same phase unreported spawned =>
      exact absurd same moved
  | move shift =>
      cases shift with
      | finish source =>
          rcases sees taking member mine listeners taken with
            empty | dismissing | seen
          · exact .inl empty
          · cases dismissing
          · exact .inr seen
      | neverStarted source | startFailed source =>
          rw [source] at closing
          cases closing
      | start source | started source | shutDown source =>
          cases stopped

/-- Nothing is done for others to see when a host has stopped. -/
theorem Reachable.still
    (reachable : Reachable blueprint scene)
    {deed : Deed σ ρ}
    (member : deed ∈ scene.history)
    (stopped : deed.before.state = .stopped) :
    deed.effects = [] := by
  have idle : deed.job.phase? = none := by
    refine reachable.idle member (by rw [stopped]; decide) ?_
    intro closing
    rw [stopped] at closing
    cases closing
  obtain ⟨past, done⟩ := reachable.past member
  have vacant : deed.before.listening = none := by
    rw [← done.host] at stopped ⊢
    exact done.reachable.cleared.state stopped
  rcases reachable.effects_of_idle member idle with
    nothing | ⟨-, listeners, taken, -⟩ | ⟨fresh, -⟩
  · exact nothing
  · rw [Deed.taken?, vacant] at taken
    cases taken
  · rw [stopped] at fresh
    cases fresh

/-- How an actor shuts a host down. -/
structure ShutsDown
    (blueprint : Blueprint σ ρ)
    (scene : Scene σ ρ)
    (actor : Nat) : Prop where
  /-- What others can see of it goes in the order of the course. -/
  ordered :
    ∃ lit found,
      scene.shutdownBy actor <+:
        blueprint.course (scene.accepted blueprint) lit found
  /-- When the host has stopped, nothing of the course is left. -/
  complete :
    scene.host.state = .stopped →
      ∃ lit found,
        scene.shutdownBy actor =
          blueprint.course (scene.accepted blueprint) lit found
  /-- The heartbeat is off before anything else is done. -/
  dark :
    ∀ earlier deed later,
      scene.history = earlier ++ deed :: later →
      deed.closes actor = true →
      deed.effects ≠ [] →
      TurnedOff (earlier ++ [deed]) actor
  /-- At the end the host has no listeners, and those that were taken were seen off. -/
  drained :
    ∀ earlier deed later,
      scene.history = earlier ++ deed :: later →
      deed.closes actor = true →
      deed.entered? = some .stopped →
      deed.turn.host.listening = none ∧
        ∀ taking ∈ earlier,
          taking.actor = actor →
          ∀ listeners,
            taking.taken? = some listeners →
              listeners = [] ∨ SeenOff earlier taking listeners []

/-- One actor at most shuts the host down, and nobody else has a part in that. -/
structure ShutsDownOnce
    (blueprint : Blueprint σ ρ)
    (scene : Scene σ ρ) : Prop where
  oneActor :
    ∀ actor other,
      scene.TookCharge actor →
      scene.TookCharge other →
      actor = other
  someActor :
    State.shuttingDown ∈ scene.trail →
      ∃ actor, scene.TookCharge actor
  inOrder :
    ∀ actor,
      scene.TookCharge actor → ShutsDown blueprint scene actor
  /--
  When the host is not starting, nobody else does anything for others to see.  Only
  somebody's own stop may take the listeners, and a host that was never started may
  be stopped at once.
  -/
  others :
    ∀ deed ∈ scene.history,
      deed.before.state ≠ .starting →
      (deed.before.state = .shuttingDown →
        ¬ scene.TookCharge deed.actor) →
      deed.effects = [] ∨
        (deed.request = .stop ∧
          ∃ listeners, deed.effects = [.tookListeners listeners]) ∨
        (deed.before.state = .notStarted ∧ deed.effects = [.stopped])
  /-- Nothing is done when the host has stopped. -/
  still :
    ∀ deed ∈ scene.history,
      deed.before.state = .stopped → deed.effects = []
  hooksOnce :
    scene.hooksRunIn .shuttingDown <+:
      blueprint.shutdownHooks.map Hook.name
  noHooks :
    State.running ∉ scene.trail →
      scene.hooksRunIn .shuttingDown = []
  allHooks :
    State.shuttingDown ∈ scene.trail →
      scene.host.state = .stopped →
      scene.hooksRunIn .shuttingDown =
        blueprint.shutdownHooks.map Hook.name
  /-- Whenever else a hook is invoked, it is one of the startup hooks. -/
  startupHooks :
    ∀ deed ∈ scene.history,
      deed.before.state ≠ .shuttingDown →
      ∀ hook ∈ hooksRun deed.turn.journal,
        deed.before.state = .starting ∧
          hook ∈ blueprint.startupHooks.map Hook.name
  /-- A host that has stopped has withdrawn every accepted endpoint, each of them once. -/
  withdrawnOnce :
    scene.host.state = .stopped →
      withdrawals scene.journal = scene.accepted blueprint ∧
        (scene.accepted blueprint).Nodup

/--
Under every interleaving of any number of starts, stops and shutdowns, whatever
hooks, the registry and the surroundings do, a host is shut down once at most,
and in order.
-/
theorem shutsDownOnce
    (blueprint : Blueprint σ ρ)
    (surroundings : Surroundings ρ)
    (schedule : List (Happening ρ)) :
    ShutsDownOnce blueprint
      (run blueprint (opening surroundings) schedule) := by
  generalize led :
    run blueprint (opening surroundings) schedule = scene
  have reachable : Reachable blueprint scene :=
    ⟨surroundings, schedule, led.symm⟩
  constructor
  case oneActor =>
    intro actor other took another
    exact reachable.tookCharge_unique took another
  case someActor => exact exists_tookCharge
  case inOrder =>
    intro actor took
    refine
      { ordered := reachable.ordered took
        complete := reachable.concluded actor took
        dark := fun _ _ _ => reachable.dark took
        drained := ?_ }
    intro earlier deed later shape closes entered
    obtain ⟨rfl, closing⟩ := Deed.closes_iff.mp closes
    exact reachable.drained shape closing entered
  case others =>
    intro deed member begun other
    rcases reachable.effects_of_idle member
        (reachable.idle member begun other) with
      nothing | ⟨asked, listeners, -, takes⟩ | fresh
    · exact .inl nothing
    · exact .inr (.inl ⟨asked, listeners, takes⟩)
    · exact .inr (.inr fresh)
  case still =>
    intro deed member stopped
    exact reachable.still member stopped
  case hooksOnce => exact reachable.hooksRunIn_prefix
  case noHooks =>
    intro neverRan
    exact
      reachable.hooksRunIn_eq_nil
        (mt reachable.governed.path.mem_of_mem.1 neverRan)
  case allHooks => exact reachable.hooksRunIn_of_stopped
  case startupHooks =>
    intro deed member other hook ran
    exact reachable.startupHook_of_hooksRun member other ran
  case withdrawnOnce => exact reachable.withdrawals_of_stopped

end Scene

end PluggableHost.Lifecycle
