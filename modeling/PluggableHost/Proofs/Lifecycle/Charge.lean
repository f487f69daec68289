import PluggableHost.Proofs.Lifecycle.Agenda

namespace PluggableHost.Lifecycle

open PluggableHost.Net PluggableHost.Observability PluggableHost.Plugin PluggableHost.Registry

/-!
# Who shuts a host down, and how far it has come

One actor at most takes charge of a shutdown.  What that actor has done while the host
shuts down, as others can see it, and what is left for its job to do always make up
the whole course; when the host has stopped, nothing is left.
-/

variable {σ ρ : Type}

namespace Scene

variable
  {blueprint : Blueprint σ ρ}
  {scene : Scene σ ρ}

/-! ## Who shuts a host down -/

/-- The actor is the one that has brought the host to shut down. -/
def TookCharge
    (scene : Scene σ ρ)
    (actor : Nat) : Prop :=
  ∃ deed ∈ scene.history,
    deed.actor = actor ∧ deed.entered? = some .shuttingDown

/-- Whoever has taken charge has done so for good. -/
theorem TookCharge.turned
    {actor other : Nat}
    {errand : Errand σ}
    {turn : Turn σ ρ}
    (took : scene.TookCharge other) :
    (scene.turned actor errand turn).TookCharge other := by
  obtain ⟨deed, member, same, entered⟩ := took
  exact ⟨deed, List.mem_append_left _ member, same, entered⟩

/-- Whoever has taken charge has brought the host to shut down. -/
theorem TookCharge.mem_trail
    {actor : Nat}
    (took : scene.TookCharge actor) :
    .shuttingDown ∈ scene.trail := by
  obtain ⟨deed, member, -, entered⟩ := took
  exact List.mem_filterMap.mpr ⟨deed, member, entered⟩

/-- Two actors never take charge. -/
theorem Reachable.tookCharge_unique
    (reachable : Reachable blueprint scene)
    {actor other : Nat}
    (took : scene.TookCharge actor)
    (another : scene.TookCharge other) :
    actor = other := by
  obtain ⟨deed, member, rfl, entered⟩ := took
  obtain ⟨rival, present, rfl, also⟩ := another
  have counted :
      (scene.history.filter fun deed =>
          deed.entered? == some .shuttingDown).length =
        scene.trail.count .shuttingDown :=
    length_filter_eq_count fun deed _ => by simp
  have once : scene.trail.count .shuttingDown ≤ 1 :=
    List.nodup_iff_count_le_one.mp reachable.governed.path.nodup _
  rw [← counted] at once
  rw [eq_of_mem_of_selected once member (by simpa using entered) present
    (by simpa using also)]

/-- Whoever is in charge of a shutdown has taken charge of it. -/
theorem Reachable.owned
    (reachable : Reachable blueprint scene)
    {actor : Nat}
    {errand : Errand σ}
    (found : scene.errands[actor]? = some errand)
    (charged : errand.job.phase? = some .shutdown) :
    scene.TookCharge actor := by
  have each :
      Each
        (fun scene actor errand =>
          errand.job.phase? = some .shutdown → scene.TookCharge actor)
        scene := by
    refine reachable.each ?_ ?_ ?_ ?_ ?_ ?_
    · intro scene request _ charged
      cases request <;> cases charged
    · intro scene request actor errand owned
      exact owned
    · intro scene actor errand turn reached found stepped owned charged
      cases reached.governed.passage found stepped with
      | stay state phase unreported spawned =>
          exact (owned (phase.symm.trans charged)).turned
      | move shift =>
          obtain ⟨request, job⟩ := errand
          cases shift with
          | shutDown source =>
              refine ⟨_, List.mem_append_right _
                (List.mem_singleton.mpr rfl), rfl, ?_⟩
              simp [Deed.entered?, source]
          | _ =>
              cases charged
    · intro scene actor acting turn other errand reached found stepped
        different _ owned charged
      exact (owned charged).turned
    · intro scene actor acting turn other reached inside absent charged
      cases charged
    · intro scene surroundings actor errand owned
      exact owned
  exact each actor errand found charged

/-- While a host shuts down, somebody is in charge of that. -/
theorem Governed.exists_charged
    (governed : Governed scene)
    (closing : scene.host.state = .shuttingDown) :
    ∃ (actor : Nat) (errand : Errand σ),
      scene.errands[actor]? = some errand ∧
        errand.job.phase? = some .shutdown := by
  have charges := governed.charges
  rw [closing] at charges
  have charged : Phase.shutdown ∈ scene.charges := by
    rw [charges]
    simp [State.phase?]
  obtain ⟨errand, member, busy⟩ := List.mem_filterMap.mp charged
  obtain ⟨actor, found⟩ := List.getElem?_of_mem member
  exact ⟨actor, errand, found, busy⟩

/-- A deed that finds its host in some state finds a state that was entered. -/
theorem Reachable.mem_trail_of_before
    (reachable : Reachable blueprint scene)
    {deed : Deed σ ρ}
    (member : deed ∈ scene.history)
    (moved : deed.before.state ≠ .notStarted) :
    deed.before.state ∈ scene.trail := by
  obtain ⟨past, done, within⟩ := reachable.pastWithin member
  rw [← done.host] at moved ⊢
  have entered := done.reachable.governed.path.mem_of_ne moved
  obtain ⟨earlier, present, same⟩ := List.mem_filterMap.mp entered
  exact List.mem_filterMap.mpr ⟨earlier, within present, same⟩

/-! ## The course that a shutdown takes -/

/-- What others could see an actor do while the host shut down, in order. -/
def shutdownBy
    (scene : Scene σ ρ)
    (actor : Nat) : List Effect :=
  (scene.history.filter (Deed.closes actor)).flatMap Deed.effects

/-- A step adds its effects to the shutdown if it closes. -/
theorem shutdownBy_turned
    (scene : Scene σ ρ)
    (actor other : Nat)
    (errand : Errand σ)
    (turn : Turn σ ρ) :
    let deed : Deed σ ρ :=
      { actor, request := errand.request, job := errand.job,
        before := scene.host, turn }
    (scene.turned actor errand turn).shutdownBy other =
      scene.shutdownBy other ++
        (if deed.closes other then deed.effects else []) := by
  intro deed
  by_cases closes : deed.closes other = true <;>
    simp [shutdownBy, turned, deed, closes, List.filter_append]

/-- Others have no part in what an actor does. -/
theorem shutdownBy_other
    (scene : Scene σ ρ)
    {actor other : Nat}
    (different : other ≠ actor)
    (errand : Errand σ)
    (turn : Turn σ ρ) :
    (scene.turned actor errand turn).shutdownBy other =
      scene.shutdownBy other := by
  rw [shutdownBy_turned, if_neg, List.append_nil]
  intro closes
  exact different (Deed.closes_iff.mp closes).1.symm

/-- Nothing that is done in another state is a part of the shutdown. -/
theorem shutdownBy_elsewhere
    (scene : Scene σ ρ)
    (other : scene.host.state ≠ .shuttingDown)
    (actor acting : Nat)
    (errand : Errand σ)
    (turn : Turn σ ρ) :
    (scene.turned acting errand turn).shutdownBy actor =
      scene.shutdownBy actor := by
  rw [shutdownBy_turned, if_neg, List.append_nil]
  intro closes
  exact other (Deed.closes_iff.mp closes).2

/-- Before a host shuts down, nothing of the shutdown is done. -/
theorem Reachable.shutdownBy_eq_nil
    (reachable : Reachable blueprint scene)
    (never : .shuttingDown ∉ scene.trail)
    (actor : Nat) :
    scene.shutdownBy actor = [] := by
  have none : scene.history.filter (Deed.closes actor) = [] := by
    apply List.filter_eq_nil_iff.mpr
    intro deed member closes
    obtain ⟨-, closing⟩ := Deed.closes_iff.mp closes
    have entered :=
      reachable.mem_trail_of_before member (by rw [closing]; decide)
    rw [closing] at entered
    exact never entered
  rw [shutdownBy, none, List.flatMap_nil]

/-- Whoever is not in charge leaves what was published as it is. -/
theorem quiet_of_plain
    {actor : Nat}
    {errand : Errand σ}
    {turn : Turn σ ρ}
    (reachable : Reachable blueprint scene)
    (found : scene.errands[actor]? = some errand)
    (stepped : blueprint.step scene.host errand.job = some turn)
    (plain : errand.job.isPlain = true) :
    (scene.turned actor errand turn).accepted blueprint =
        scene.accepted blueprint ∧
      turn.host.registrar.tracked = scene.host.registrar.tracked := by
  have inPlace :=
    reachable.governed.inPlace (List.mem_of_getElem? found)
  have same :
      (scene.turned actor errand turn).ledger blueprint =
        scene.ledger blueprint := by
    rw [ledger_turned]
    exact Blueprint.after_of_plain stepped inPlace rfl plain
  exact ⟨congrArg Ledger.accepted same, congrArg Ledger.tracked same⟩

/-- The registry accepts nothing in the course of a shutdown. -/
theorem accepted_of_shutdown
    (scene : Scene σ ρ)
    (actor : Nat)
    {errand : Errand σ}
    (turn : Turn σ ρ)
    (charged : errand.job.phase? = some .shutdown) :
    (scene.turned actor errand turn).accepted blueprint =
      scene.accepted blueprint := by
  have after :=
    congrArg Ledger.accepted
      (ledger_turned blueprint scene actor errand turn)
  refine after.trans ?_
  show scene.accepted blueprint ++ _ = _
  rw [Job.accepting_of_shutdown charged, List.append_nil]

/-- What an actor has done of a shutdown and what its job is about to do is the course. -/
def Underway
    (blueprint : Blueprint σ ρ)
    (scene : Scene σ ρ)
    (actor : Nat)
    (job : Job σ) : Prop :=
  ∃ lit found,
    scene.shutdownBy actor ++
        job.agenda blueprint scene.host.registrar.tracked lit found =
      blueprint.course (scene.accepted blueprint) lit found

section Step

variable
  {actor : Nat}
  {errand : Errand σ}
  {turn : Turn σ ρ}

/-- A shutdown goes on. -/
theorem Underway.stay
    (underway : Underway blueprint scene actor errand.job)
    (reachable : Reachable blueprint scene)
    (found : scene.errands[actor]? = some errand)
    (stepped : blueprint.step scene.host errand.job = some turn)
    (charged : errand.job.phase? = some .shutdown)
    (same : turn.next.phase? = errand.job.phase?)
    (state : turn.host.state = scene.host.state) :
    Underway blueprint (scene.turned actor errand turn) actor
      turn.next := by
  have member := List.mem_of_getElem? found
  have inPlace := reachable.governed.inPlace member
  let deed : Deed σ ρ :=
    { actor, request := errand.request, job := errand.job,
      before := scene.host, turn }
  have closes : deed.closes actor = true :=
    Deed.closes_iff.mpr
      ⟨rfl, reachable.governed.state_eq found charged⟩
  have done :
      (scene.turned actor errand turn).shutdownBy actor =
        scene.shutdownBy actor ++ deed.effects := by
    rw [shutdownBy_turned, if_pos closes]
  have accepted :
      (scene.turned actor errand turn).accepted blueprint =
        scene.accepted blueprint :=
    accepted_of_shutdown scene actor turn charged
  obtain ⟨lit, taken, course⟩ := underway
  unfold Underway
  rw [done, accepted]
  exact
    deed.course_of_step stepped inPlace charged same state rfl
      (accepted_eq_nil scene) (reachable.balanced.jobs errand member)
      course

/-- Nobody else has a part in a shutdown. -/
theorem Underway.stand
    {other : Nat}
    {standing : Errand σ}
    (underway : Underway blueprint scene other standing.job)
    (reachable : Reachable blueprint scene)
    (found : scene.errands[actor]? = some errand)
    (stepped : blueprint.step scene.host errand.job = some turn)
    (different : other ≠ actor)
    (present : scene.errands[other]? = some standing)
    (charged : standing.job.phase? = some .shutdown) :
    Underway blueprint (scene.turned actor errand turn) other
      standing.job := by
  have governed := reachable.governed
  have plain : errand.job.isPlain = true :=
    isPlain_of_idle
      (governed.idle present charged found (Ne.symm different))
  obtain ⟨accepted, tracked⟩ :=
    quiet_of_plain reachable found stepped plain
  obtain ⟨lit, taken, course⟩ := underway
  refine ⟨lit, taken, ?_⟩
  rw [shutdownBy_other scene different, accepted]
  show _ ++ Job.agenda blueprint turn.host.registrar.tracked _ _ _ = _
  rw [tracked]
  exact course

/-- A shutdown begins with all of its course before it. -/
theorem Underway.begin
    (reachable : Reachable blueprint scene)
    (found : scene.errands[actor]? = some errand)
    (stepped : blueprint.step scene.host errand.job = some turn)
    (source : scene.host.state = .running)
    (next : turn.next = .reportClaim .won)
    (plain : errand.job.isPlain = true) :
    Underway blueprint (scene.turned actor errand turn) actor
      turn.next := by
  have never : State.shuttingDown ∉ scene.trail := by
    intro entered
    have far := reachable.governed.path.rank_le entered
    rw [source] at far
    exact absurd far (by decide)
  obtain ⟨accepted, tracked⟩ :=
    quiet_of_plain reachable found stepped plain
  have opened : (scene.ledger blueprint).Opened blueprint.endpoints := by
    have books := reachable.balanced.state
    rw [source] at books
    exact books
  have all : scene.host.registrar.tracked = scene.accepted blueprint :=
    opened.tracked
  refine ⟨true, none, ?_⟩
  rw [shutdownBy_elsewhere scene (by rw [source]; decide),
    reachable.shutdownBy_eq_nil never, accepted, next]
  show Job.agenda blueprint turn.host.registrar.tracked true none
      (.reportClaim .won) = _
  rw [tracked, all]
  rfl

end Step

/-- Whoever is in charge of a shutdown is somewhere on its course. -/
theorem Reachable.underway
    (reachable : Reachable blueprint scene)
    {actor : Nat}
    {errand : Errand σ}
    (found : scene.errands[actor]? = some errand)
    (charged : errand.job.phase? = some .shutdown) :
    Underway blueprint scene actor errand.job := by
  have each :
      Each
        (fun scene actor errand =>
          errand.job.phase? = some .shutdown →
            Underway blueprint scene actor errand.job)
        scene := by
    refine reachable.each ?_ ?_ ?_ ?_ ?_ ?_
    · intro scene request _ charged
      cases request <;> cases charged
    · intro scene request actor errand underway
      exact underway
    · intro scene actor errand turn reached found stepped underway charged
      cases reached.governed.passage found stepped with
      | stay state phase unreported spawned =>
          have before := phase.symm.trans charged
          exact (underway before).stay reached found stepped before phase
            state
      | move shift =>
          obtain ⟨request, job⟩ := errand
          cases shift with
          | shutDown source =>
              exact Underway.begin reached found stepped source rfl rfl
          | _ =>
              cases charged
    · intro scene actor acting turn other errand reached found stepped
        different present underway charged
      exact
        (underway charged).stand reached found stepped different present
          charged
    · intro scene actor acting turn other reached inside absent charged
      cases charged
    · intro scene surroundings actor errand underway
      exact underway
  exact each actor errand found charged

/-- What an actor did of a shutdown is the whole course of it. -/
def Finished
    (blueprint : Blueprint σ ρ)
    (scene : Scene σ ρ)
    (actor : Nat) : Prop :=
  ∃ lit found,
    scene.shutdownBy actor =
      blueprint.course (scene.accepted blueprint) lit found

section Finish

variable
  {actor : Nat}
  {errand : Errand σ}
  {turn : Turn σ ρ}

/-- A shutdown that enters the last state has come to the end of its course. -/
theorem Underway.finish
    (underway : Underway blueprint scene actor errand.job)
    (reachable : Reachable blueprint scene)
    (found : scene.errands[actor]? = some errand)
    (stepped : blueprint.step scene.host errand.job = some turn)
    (shift : Shift scene.host errand.job turn)
    (closing : scene.host.state = .shuttingDown)
    (enters : errand.job = .enterStopped)
    (stopped : turn.host.state = .stopped) :
    Finished blueprint (scene.turned actor errand turn) actor := by
  have inPlace :=
    reachable.governed.inPlace (List.mem_of_getElem? found)
  let deed : Deed σ ρ :=
    { actor, request := errand.request, job := errand.job,
      before := scene.host, turn }
  have closes : deed.closes actor = true :=
    Deed.closes_iff.mpr ⟨rfl, closing⟩
  have effects : deed.effects = [.stopped] :=
    (Deed.effects_of_shift stepped inPlace shift).trans (if_pos stopped)
  obtain ⟨lit, taken, course⟩ := underway
  refine ⟨lit, taken, ?_⟩
  rw [shutdownBy_turned, if_pos closes, effects,
    accepted_of_shutdown scene actor turn (by rw [enters]; rfl)]
  rw [enters] at course
  exact course

/-- When a host has stopped, nobody adds anything to its shutdown. -/
theorem Finished.stay
    {other : Nat}
    (finished : Finished blueprint scene other)
    (reachable : Reachable blueprint scene)
    (found : scene.errands[actor]? = some errand)
    (stepped : blueprint.step scene.host errand.job = some turn)
    (stopped : scene.host.state = .stopped) :
    Finished blueprint (scene.turned actor errand turn) other := by
  have idle : errand.job.phase? = none := by
    cases charged : errand.job.phase? with
    | none =>
        rfl
    | some phase =>
        have closing := reachable.governed.state_eq found charged
        rw [stopped] at closing
        cases phase <;> cases closing
  obtain ⟨accepted, -⟩ :=
    quiet_of_plain reachable found stepped (isPlain_of_idle idle)
  obtain ⟨lit, taken, course⟩ := finished
  refine ⟨lit, taken, ?_⟩
  rw [shutdownBy_elsewhere scene (by rw [stopped]; decide), accepted]
  exact course

end Finish

/-- If the host has stopped, whoever was in charge of its shutdown has finished it. -/
def Concluded
    (blueprint : Blueprint σ ρ)
    (scene : Scene σ ρ) : Prop :=
  ∀ actor,
    scene.TookCharge actor →
    scene.host.state = .stopped →
    Finished blueprint scene actor

/-- A step keeps a shutdown concluded. -/
theorem Concluded.turned
    {acting : Nat}
    {errand : Errand σ}
    {turn : Turn σ ρ}
    (concluded : Concluded blueprint scene)
    (reachable : Reachable blueprint scene)
    (found : scene.errands[acting]? = some errand)
    (stepped : blueprint.step scene.host errand.job = some turn) :
    Concluded blueprint (scene.turned acting errand turn) := by
  intro actor took stopped
  have ended : turn.host.state = .stopped := stopped
  have before : scene.TookCharge actor := by
    obtain ⟨deed, member, same, entered⟩ := took
    rcases List.mem_append.mp member with earlier | last
    · exact ⟨deed, earlier, same, entered⟩
    · rw [List.mem_singleton.mp last] at entered
      obtain ⟨into, -⟩ := Deed.entered?_eq_some_iff.mp entered
      rw [show turn.host.state = .shuttingDown from into] at ended
      cases ended
  have far := reachable.governed.path.rank_le before.mem_trail
  cases reachable.governed.passage found stepped with
  | stay state phase unreported spawned =>
      have already := state.symm.trans ended
      exact
        (concluded actor before already).stay reachable found stepped
          already
  | move shift =>
      obtain ⟨request, job⟩ := errand
      cases shift with
      | finish source =>
          obtain rfl : actor = acting :=
            reachable.tookCharge_unique before (reachable.owned found rfl)
          exact
            (reachable.underway found rfl).finish reachable found stepped
              (.finish source) source rfl ended
      | neverStarted source | startFailed source =>
          rw [source] at far
          exact absurd far (by decide)
      | start source | started source | shutDown source =>
          cases ended

/-- When a host has stopped, its shutdown is finished. -/
theorem Reachable.concluded
    (reachable : Reachable blueprint scene) :
    Concluded blueprint scene := by
  refine reachable.induct ?_ ?_ ?_ ?_
  · rintro surroundings actor ⟨deed, member, -⟩
    exact absurd member List.not_mem_nil
  · intro scene request _ concluded
    exact concluded
  · intro scene acting errand turn reached found stepped concluded
    exact concluded.turned reached found stepped
  · intro scene surroundings concluded
    exact concluded

/-- What an actor does of a shutdown that it is in charge of is a part of the course. -/
theorem Reachable.ordered
    (reachable : Reachable blueprint scene)
    {actor : Nat}
    (took : scene.TookCharge actor) :
    ∃ lit found,
      scene.shutdownBy actor <+:
        blueprint.course (scene.accepted blueprint) lit found := by
  have far := reachable.governed.path.rank_le took.mem_trail
  cases state : scene.host.state with
  | stopped =>
      obtain ⟨lit, found, whole⟩ := reachable.concluded actor took state
      exact ⟨lit, found, whole ▸ List.prefix_rfl⟩
  | shuttingDown =>
      obtain ⟨holder, errand, found, charged⟩ :=
        reachable.governed.exists_charged state
      obtain rfl : actor = holder :=
        reachable.tookCharge_unique took (reachable.owned found charged)
      obtain ⟨lit, taken, course⟩ := reachable.underway found charged
      exact ⟨lit, taken, _, course⟩
  | notStarted | starting | running =>
      rw [state] at far
      exact absurd far (by decide)

/-! ## Who does what while a host shuts down -/

/-- While a host shuts down, whoever took charge of that is in charge, and nobody else. -/
theorem Reachable.charged_iff
    (reachable : Reachable blueprint scene)
    {deed : Deed σ ρ}
    (member : deed ∈ scene.history)
    (closing : deed.before.state = .shuttingDown) :
    deed.job.phase? = some .shutdown ↔ scene.TookCharge deed.actor := by
  obtain ⟨past, done, within⟩ := reachable.pastWithin member
  have recorded
      {actor : Nat}
      (took : past.TookCharge actor) :
      scene.TookCharge actor := by
    obtain ⟨first, present, same, entered⟩ := took
    exact ⟨first, within present, same, entered⟩
  constructor
  · intro charged
    exact recorded (done.reachable.owned done.errand charged)
  · intro took
    obtain ⟨holder, errand, found, charged⟩ :=
      done.reachable.governed.exists_charged
        (by rw [done.host, closing])
    have same : deed.actor = holder :=
      reachable.tookCharge_unique took
        (recorded (done.reachable.owned found charged))
    rw [← same, done.errand] at found
    rw [← Option.some.inj found] at charged
    exact charged

/-- While it shut the host down, the actor has seen to it that the heartbeat is off. -/
def TurnedOff
    (history : List (Deed σ ρ))
    (actor : Nat) : Prop :=
  ∃ deed ∈ history,
    deed.closes actor = true ∧ deed.turn.host.isLit = false

/-- Whoever has come past the heartbeat in a shutdown has turned it off. -/
theorem Reachable.turnedOff
    (reachable : Reachable blueprint scene)
    {actor : Nat}
    {errand : Errand σ}
    (found : scene.errands[actor]? = some errand)
    (charged : errand.job.phase? = some .shutdown)
    (past : errand.job.beats = false) :
    TurnedOff scene.history actor := by
  have later
      {scene : Scene σ ρ}
      {actor other : Nat}
      {errand : Errand σ}
      {turn : Turn σ ρ} :
      TurnedOff scene.history other →
        TurnedOff (scene.turned actor errand turn).history other := by
    rintro ⟨deed, member, closes, dark⟩
    exact ⟨deed, List.mem_append_left _ member, closes, dark⟩
  have each :
      Each
        (fun scene actor errand =>
          errand.job.phase? = some .shutdown →
            errand.job.beats = false →
              TurnedOff scene.history actor)
        scene := by
    refine reachable.each ?_ ?_ ?_ ?_ ?_ ?_
    · intro scene request _ charged
      cases request <;> cases charged
    · intro scene request actor errand turnedOff
      exact turnedOff
    · intro scene actor errand turn reached found stepped turnedOff charged
        past
      cases reached.governed.passage found stepped with
      | stay state phase unreported spawned =>
          have before := phase.symm.trans charged
          by_cases turns : errand.job = .turnHeartbeatOff
          · refine ⟨_, List.mem_append_right _
              (List.mem_singleton.mpr rfl), ?_, ?_⟩
            · exact
                Deed.closes_iff.mpr
                  ⟨rfl, reached.governed.state_eq found before⟩
            · rw [turns] at stepped
              exact Blueprint.not_lit_of_turnHeartbeatOff stepped
          · have calm := Job.calm_of_shutdown before turns
            cases beats : errand.job.beats with
            | false =>
                exact later (turnedOff before beats)
            | true =>
                have still :=
                  Blueprint.beats_of_step stepped calm charged beats
                rw [show turn.next.beats = false from past] at still
                cases still
      | move shift =>
          obtain ⟨request, job⟩ := errand
          cases shift with
          | shutDown source =>
              cases past
          | _ =>
              cases charged
    · intro scene actor acting turn other errand reached found stepped
        different _ turnedOff charged past
      exact later (turnedOff charged past)
    · intro scene actor acting turn other reached inside absent charged
      cases charged
    · intro scene surroundings actor errand turnedOff
      exact turnedOff
  exact each actor errand found charged past

/-- Nothing else is done in a shutdown before the heartbeat is off. -/
theorem Reachable.dark
    (reachable : Reachable blueprint scene)
    {actor : Nat}
    (took : scene.TookCharge actor)
    {earlier later : List (Deed σ ρ)}
    {deed : Deed σ ρ}
    (shape : scene.history = earlier ++ deed :: later)
    (closes : deed.closes actor = true)
    (acts : deed.effects ≠ []) :
    TurnedOff (earlier ++ [deed]) actor := by
  have member : deed ∈ scene.history := by
    rw [shape]
    exact List.mem_append_right _ List.mem_cons_self
  obtain ⟨rfl, closing⟩ := Deed.closes_iff.mp closes
  have charged := (reachable.charged_iff member closing).mpr took
  obtain ⟨past, done, rfl⟩ :=
    reachable.chronicled earlier deed later shape
  have stepped := done.stepped
  rw [done.host] at stepped
  have inPlace := reachable.inPlace member
  cases beats : deed.job.beats with
  | false =>
      obtain ⟨first, present, mine, dark⟩ :=
        done.reachable.turnedOff done.errand charged beats
      exact ⟨first, List.mem_append_left _ present, mine, dark⟩
  | true =>
      by_cases turns : deed.job = .turnHeartbeatOff
      · refine ⟨deed, List.mem_append_right _
          (List.mem_singleton_self deed), closes, ?_⟩
        rw [turns] at stepped
        exact Blueprint.not_lit_of_turnHeartbeatOff stepped
      · exact
          absurd
            (Deed.effects_of_beats stepped inPlace charged beats turns) acts

end Scene

end PluggableHost.Lifecycle
