import PluggableHost.Proofs.Lifecycle.Forward

namespace PluggableHost.Lifecycle

open PluggableHost.Net PluggableHost.Observability PluggableHost.Plugin

/-!
# Who is in charge

A start that has passed its guard is in charge of the host until it is running
or given up, and a shutdown that has won its claim is in charge until the host
has stopped.  The state of the host says whether somebody is in charge of what,
and then it is exactly one errand.
-/

namespace State

/-- The phase that somebody is in charge of in a state. -/
def phase? : State → Option Phase
  | starting => some .startup
  | shuttingDown => some .shutdown
  | _ => none

/-- The state in which somebody is in charge of a phase. -/
def ofPhase : Phase → State
  | .startup => starting
  | .shutdown => shuttingDown

/-- Somebody is in charge of a phase in one state only. -/
theorem phase?_eq_some
    {state : State}
    {phase : Phase} :
    state.phase? = some phase ↔ state = ofPhase phase := by
  cases state <;> cases phase <;> simp [phase?, ofPhase]

end State

/-- The phase that a purpose belongs to. -/
def Purpose.phase : Purpose → Phase
  | rollback _ => .startup
  | shutdown => .shutdown

variable {σ ρ : Type}

namespace Job

/-- The phase that a job is in charge of. -/
def phase? : Job σ → Option Phase
  | reportBegun | armSignals | validate | publish | offer _ | track _ _
  | finishPublishing | assemble | secure _ | compose _ _ | listen _ _
  | keep _ _ | turnHeartbeatOn | enterRunning | reportFailure _
  | forgetPending _ | giveUp _ | brokenDown => some .startup
  | reportClaim .won | announceShutdown | turnHeartbeatOff
  | announceCleanUp | reportHooks _ | enterStopped => some .shutdown
  | runHooks phase _ _ | runHook phase _ _ _ _ => some phase
  | withdrawAll purpose | withdraw purpose _
  | stop (some purpose) _ => some purpose.phase
  | _ => none

/-- The state that was entered and that the job has yet to report. -/
def unreported? : Job σ → Option State
  | reportBegun => some .starting
  | reportRunning => some .running
  | reportClaim .won => some .shuttingDown
  | reportClaim .neverStarted | reportGivenUp _ | reportStopped =>
      some .stopped
  | _ => none

/-- The job is in charge of nothing that the state does not tell of. -/
def InPlace
    (job : Job σ)
    (state : State) : Prop :=
  ∀ phase, job.phase? = some phase → state.phase? = some phase

end Job

/-- A step that moves the state.  Each move is made in one place. -/
inductive Shift (host : Host σ ρ) : Job σ → Turn σ ρ → Prop where
  | start
      (source : host.state = .notStarted) :
      Shift host .begin
        { host := { host with state := .starting }
          next := .reportBegun }
  | neverStarted
      (source : host.state = .notStarted) :
      Shift host .claim
        { host := { host with state := .stopped }
          next := .reportClaim .neverStarted }
  | started
      (source : host.state = .starting) :
      Shift host .enterRunning
        { host := { host with state := .running }
          next := .reportRunning }
  | startFailed
      {failure : HostError}
      (source : host.state = .starting) :
      Shift host (.giveUp failure)
        { host := { host with state := .stopped }
          next := .reportGivenUp failure }
  | shutDown
      (source : host.state = .running) :
      Shift host .claim
        { host := { host with state := .shuttingDown }
          next := .reportClaim .won }
  | finish
      (source : host.state = .shuttingDown) :
      Shift host .enterStopped
        { host := { host with state := .stopped }
          next := .reportStopped }

namespace Shift

variable
  {host : Host σ ρ}
  {job : Job σ}
  {turn : Turn σ ρ}

/-- A shift is one of the allowed moves. -/
theorem moves
    (shift : Shift host job turn) :
    State.Move host.state turn.host.state := by
  cases shift with
  | start source =>
      rw [source]
      exact .start
  | neverStarted source =>
      rw [source]
      exact .neverStarted
  | started source =>
      rw [source]
      exact .started
  | startFailed source =>
      rw [source]
      exact .startFailed
  | shutDown source =>
      rw [source]
      exact .shutDown
  | finish source =>
      rw [source]
      exact .finish

/-- The charge moves with the state, and the move is to be reported. -/
theorem charge
    (shift : Shift host job turn) :
    job.phase? = host.state.phase? ∧
      turn.next.phase? = turn.host.state.phase? ∧
      turn.next.unreported? = some turn.host.state ∧
      turn.spawned = [] := by
  cases shift <;>
    next source => rw [source]; exact ⟨rfl, rfl, rfl, rfl⟩

end Shift

/-- What a step does to the state, and to who is in charge. -/
inductive Passage
    (host : Host σ ρ)
    (job : Job σ)
    (turn : Turn σ ρ) : Prop where
  /-- The state stays, and so does the charge. -/
  | stay
      (state : turn.host.state = host.state)
      (phase : turn.next.phase? = job.phase?)
      (unreported : turn.next.unreported? = none)
      (spawned : ∀ other ∈ turn.spawned, other = .awaitSignal)
  /-- The state moves. -/
  | move
      (shift : Shift host job turn)

namespace Blueprint

variable
  {blueprint : Blueprint σ ρ}
  {host : Host σ ρ}
  {job : Job σ}
  {turn : Turn σ ρ}

/-- A request for a shutdown moves the state on behalf of a job without a charge. -/
theorem claimShutdown_cases
    (host : Host σ ρ) :
    (host.claimShutdown = (.won, { host with state := .shuttingDown }) ∧
        host.state = .running) ∨
      (host.claimShutdown =
          (.neverStarted, { host with state := .stopped }) ∧
        host.state = .notStarted) ∨
      (host.claimShutdown =
          (.deferred, { host with shutdownPending := true }) ∧
        host.state = .starting) ∨
      (host.claimShutdown = (.late host.state, host) ∧
        (host.state = .shuttingDown ∨ host.state = .stopped)) := by
  cases state : host.state <;>
    simp [Host.claimShutdown, state]

/-- What a hook does makes no difference to the job that follows. -/
theorem next_act
    (host : Host σ ρ)
    (hook : Hook)
    (action : HookAction)
    (next : Job σ) :
    (act host hook action next).next = next := by
  cases action with
  | shutdown =>
      unfold act
      dsimp only
      split <;> rfl
  | _ =>
      rfl

/-- A hook in its place is no match for the state: its requests move nothing. -/
theorem passage_of_act
    {phase : Phase}
    {next : Job σ}
    (hook : Hook)
    (action : HookAction)
    (charged : next.phase? = some phase)
    (reported : next.unreported? = none)
    (same : job.phase? = some phase)
    (inPlace : job.InPlace host.state) :
    Passage host job (act host hook action next) := by
  have held := inPlace phase same
  cases action with
  | shutdown =>
      rcases claimShutdown_cases host with
        ⟨claimed, state⟩ | ⟨claimed, state⟩ | ⟨claimed, state⟩ |
          ⟨claimed, state⟩
      · simp [state, State.phase?] at held
      · simp [state, State.phase?] at held
      · simp only [act, claimed]
        exact .stay rfl (charged.trans same.symm) reported (by simp)
      · simp only [act, claimed]
        exact .stay rfl (charged.trans same.symm) reported (by simp)
  | state =>
      exact .stay rfl (charged.trans same.symm) reported (by simp [act])
  | endpoints =>
      exact .stay rfl (charged.trans same.symm) reported (by simp [act])
  | listeners =>
      exact .stay rfl (charged.trans same.symm) reported (by simp [act])
  | heartbeat =>
      exact .stay rfl (charged.trans same.symm) reported (by simp [act])

/-- A step of a withdrawal stays in its place. -/
theorem passage_of_withdrawal
    (purpose : Purpose)
    (withdrawal : Withdrawal) :
    Passage host (.withdraw purpose withdrawal)
      (blueprint.withdrawalStep host purpose withdrawal) := by
  cases withdrawal with
  | untrack endpoints =>
      cases endpoints with
      | nil =>
          refine .stay rfl ?_ ?_ (by simp [withdrawalStep]) <;>
            cases purpose <;> rfl
      | cons endpoint rest =>
          exact .stay rfl rfl rfl (by simp [withdrawalStep])
  | tell endpoint rest =>
      unfold withdrawalStep
      dsimp only
      split <;> exact .stay rfl rfl rfl (by simp)

/-- A step of a stop stays in its place. -/
theorem passage_of_stopping
    {purpose : Option Purpose}
    {stopping : Stopping}
    (stepped : stoppingStep host purpose stopping = some turn) :
    Passage host (.stop purpose stopping) turn := by
  have ended :
      (Job.afterStop purpose : Job σ).phase? =
        (Job.stop purpose stopping : Job σ).phase? := by
    cases purpose with
    | none =>
        rfl
    | some purpose =>
        cases purpose <;> rfl
  have same (other : Stopping) :
      (Job.stop purpose other : Job σ).phase? =
        (Job.stop purpose stopping : Job σ).phase? := by
    cases purpose <;> rfl
  have silent : (Job.afterStop purpose : Job σ).unreported? = none := by
    cases purpose with
    | none =>
        rfl
    | some purpose =>
        cases purpose <;> rfl
  cases stopping with
  | take =>
      cases stepped
      by_cases none : host.listeners.isEmpty = true
      · simp only [none, ↓reduceIte]
        exact .stay rfl ended silent (by simp)
      · simp only [none]
        exact .stay rfl (same _) rfl (by simp)
  | dismiss listeners =>
      cases stepped
      exact .stay rfl (same _) rfl (by simp)
  | await listeners =>
      cases listeners with
      | nil =>
          cases stepped
          exact .stay rfl ended silent (by simp)
      | cons listener rest =>
          simp only [stoppingStep] at stepped
          split at stepped <;> cases stepped
          exact .stay rfl (same _) rfl (by simp)

/-- Every step of a job in its place stays or moves the state. -/
theorem passage_of_step
    (stepped : blueprint.step host job = some turn)
    (inPlace : job.InPlace host.state) :
    Passage host job turn := by
  cases job with
  | begin =>
      by_cases free : host.state = .notStarted
      · simp only [step, host.advance_of_eq _ free] at stepped
        cases stepped
        exact .move (.start free)
      · simp only [step, host.advance_of_ne _ free] at stepped
        cases stepped
        exact .stay rfl rfl rfl (by simp)
  | claim =>
      simp only [step] at stepped
      rcases claimShutdown_cases host with
        ⟨claimed, state⟩ | ⟨claimed, state⟩ | ⟨claimed, state⟩ |
          ⟨claimed, state⟩ <;>
        rw [claimed] at stepped <;>
        cases stepped
      · exact .move (.shutDown state)
      · exact .move (.neverStarted state)
      · exact .stay rfl rfl rfl (by simp)
      · exact .stay rfl rfl rfl (by simp)
  | enterRunning =>
      have starting : host.state = .starting :=
        State.phase?_eq_some.mp (inPlace .startup rfl)
      simp only [step, host.advance_of_eq _ starting] at stepped
      cases stepped
      exact .move (.started starting)
  | giveUp failure =>
      have starting : host.state = .starting :=
        State.phase?_eq_some.mp (inPlace .startup rfl)
      simp only [step, host.advance_of_eq _ starting] at stepped
      cases stepped
      exact .move (.startFailed starting)
  | enterStopped =>
      have closing : host.state = .shuttingDown :=
        State.phase?_eq_some.mp (inPlace .shutdown rfl)
      simp only [step, host.advance_of_eq _ closing] at stepped
      cases stepped
      exact .move (.finish closing)
  | reportClaim claim =>
      cases claim <;>
        cases stepped <;>
          exact .stay rfl rfl rfl (by simp)
  | offer endpoints =>
      cases endpoints with
      | nil =>
          cases stepped
          exact .stay rfl rfl rfl (by simp)
      | cons endpoint rest =>
          simp only [step] at stepped
          split at stepped <;> cases stepped
          · exact .stay rfl rfl rfl (by simp)
          · refine .stay rfl ?_ ?_ (by simp) <;>
              dsimp only <;>
                split <;> rfl
  | runHooks phase failures hooks =>
      cases hooks with
      | nil =>
          cases stepped
          cases phase with
          | startup =>
              refine .stay rfl ?_ ?_ (by simp) <;>
                simp only [afterHooks] <;>
                  split <;> rfl
          | shutdown =>
              exact .stay rfl rfl rfl (by simp)
      | cons hook rest =>
          cases stepped
          exact .stay rfl rfl rfl (by simp)
  | runHook phase failures hook actions rest =>
      cases actions with
      | nil =>
          cases stepped
          cases phase with
          | startup =>
              refine .stay rfl ?_ ?_ (by simp [endHook]) <;>
                simp only [endHook] <;>
                  split <;> rfl
          | shutdown =>
              exact .stay rfl rfl rfl (by simp [endHook])
      | cons action others =>
          cases stepped
          exact passage_of_act hook action rfl rfl rfl inPlace
  | withdraw purpose withdrawal =>
      cases stepped
      exact passage_of_withdrawal purpose withdrawal
  | stop purpose stopping =>
      exact passage_of_stopping stepped
  | _ =>
      simp only [step, proceed] at stepped
      (repeat' split at stepped) <;>
        cases stepped <;>
          exact .stay rfl rfl rfl (by simp)

end Blueprint

/-- The state that a step has entered. -/
def Deed.entered? (deed : Deed σ ρ) : Option State :=
  if deed.turn.host.state = deed.before.state then none
  else some deed.turn.host.state

/-- A deed that leaves the state as it is enters none. -/
theorem Deed.entered?_of_same
    {deed : Deed σ ρ}
    (same : deed.turn.host.state = deed.before.state) :
    deed.entered? = none :=
  if_pos same

/-- A deed enters the state that it leaves, if it has found another. -/
theorem Deed.entered?_eq_some_iff
    {deed : Deed σ ρ}
    {state : State} :
    deed.entered? = some state ↔
      deed.turn.host.state = state ∧
        deed.turn.host.state ≠ deed.before.state := by
  unfold entered?
  split <;> simp [*]

namespace Scene

variable
  {blueprint : Blueprint σ ρ}
  {scene : Scene σ ρ}

/-- The only errand that a step gives rise to is the wait for the signal. -/
theorem eq_of_mem_joining
    {host : Host σ ρ}
    {job : Job σ}
    {turn : Turn σ ρ}
    (passage : Passage host job turn)
    {errand : Errand σ}
    (member : errand ∈ joining turn) :
    errand = { request := .shutdown, job := .awaitSignal } := by
  obtain ⟨other, spawned, rfl⟩ := List.mem_map.mp member
  cases passage with
  | stay state phase unreported waits =>
      rw [waits other spawned]
  | move shift =>
      rw [shift.charge.2.2.2] at spawned
      exact absurd spawned List.not_mem_nil

/-- What holds of every errand after a step. -/
theorem forall_turned
    {holds : Errand σ → Prop}
    {actor : Nat}
    {errand : Errand σ}
    {turn : Turn σ ρ}
    (passage : Passage scene.host errand.job turn)
    (own : holds { errand with job := turn.next })
    (others :
      ∀ place other,
        scene.errands[place]? = some other →
        place ≠ actor →
        holds other)
    (waits : holds { request := .shutdown, job := .awaitSignal }) :
    ∀ other ∈ (scene.turned actor errand turn).errands, holds other := by
  intro other member
  obtain ⟨place, listed⟩ := List.getElem?_of_mem member
  rcases errand_turned listed with
    ⟨-, rfl⟩ | ⟨different, same⟩ | ⟨-, joins⟩
  · exact own
  · exact others place other same different
  · rw [eq_of_mem_joining passage joins]
    exact waits

/-- What the errands that join yield, when the wait for the signal yields nothing. -/
theorem filterMap_joining
    {α : Type}
    {host : Host σ ρ}
    {job : Job σ}
    {turn : Turn σ ρ}
    {yield : Errand σ → Option α}
    (passage : Passage host job turn)
    (none : yield { request := .shutdown, job := .awaitSignal } = none) :
    (joining turn).filterMap yield = [] := by
  rw [List.filterMap_eq_nil_iff]
  intro errand member
  rw [eq_of_mem_joining passage member, none]

/-- The states that the host has entered, in order. -/
def trail (scene : Scene σ ρ) : List State :=
  scene.history.filterMap Deed.entered?

/-- The phases that errands are in charge of. -/
def charges (scene : Scene σ ρ) : List Phase :=
  scene.errands.filterMap fun errand => errand.job.phase?

/-- The state tells who is in charge, and how it was come to. -/
structure Governed (scene : Scene σ ρ) : Prop where
  charges : scene.charges = scene.host.state.phase?.toList
  path : State.Path scene.trail scene.host.state

/-- Whoever is in charge of a phase is in the place that the state tells of. -/
theorem Governed.inPlace
    (governed : Governed scene)
    {errand : Errand σ}
    (member : errand ∈ scene.errands) :
    errand.job.InPlace scene.host.state := by
  intro phase charged
  have listed : phase ∈ scene.charges :=
    List.mem_filterMap.mpr ⟨errand, member, charged⟩
  rw [governed.charges] at listed
  exact Option.mem_toList.mp listed

/-- The errands before and after one that is in charge are in charge of nothing. -/
theorem Governed.others
    (governed : Governed scene)
    {errand : Errand σ}
    {earlier later : List (Errand σ)}
    (shape : scene.errands = earlier ++ errand :: later)
    (same : errand.job.phase? = scene.host.state.phase?) :
    (earlier.filterMap fun other => other.job.phase?) = [] ∧
      (later.filterMap fun other => other.job.phase?) = [] := by
  have lengths := congrArg List.length governed.charges
  simp only [Scene.charges, shape, List.filterMap_append,
    List.filterMap_cons, same] at lengths
  cases charged : scene.host.state.phase? with
  | none =>
      simpa [charged] using lengths
  | some phase =>
      simp only [charged, List.length_append, List.length_cons,
        Option.toList_some, List.length_nil] at lengths
      constructor <;>
        apply List.eq_nil_of_length_eq_zero <;>
          omega

/-- A step adds to the trail the state that it enters. -/
theorem trail_turned
    (scene : Scene σ ρ)
    (actor : Nat)
    (errand : Errand σ)
    (turn : Turn σ ρ) :
    (scene.turned actor errand turn).trail =
      scene.trail ++
        (if turn.host.state = scene.host.state then []
        else [turn.host.state]) := by
  by_cases same : turn.host.state = scene.host.state <;>
    simp [trail, Scene.turned, Deed.entered?, same]

/-- What an errand's step does to the state, and to who is in charge. -/
theorem Governed.passage
    (governed : Governed scene)
    {actor : Nat}
    {errand : Errand σ}
    {turn : Turn σ ρ}
    (found : scene.errands[actor]? = some errand)
    (stepped : blueprint.step scene.host errand.job = some turn) :
    Passage scene.host errand.job turn :=
  Blueprint.passage_of_step stepped
    (governed.inPlace (List.mem_of_getElem? found))

/-- A step keeps a scene governed. -/
theorem Governed.turned
    (governed : Governed scene)
    {actor : Nat}
    {errand : Errand σ}
    {turn : Turn σ ρ}
    (found : scene.errands[actor]? = some errand)
    (stepped : blueprint.step scene.host errand.job = some turn) :
    Governed (scene.turned actor errand turn) := by
  obtain ⟨earlier, later, shape, -, after⟩ := errands_split found turn
  have entered := trail_turned scene actor errand turn
  have passage := governed.passage found stepped
  have joined :
      (joining turn).filterMap (fun other => other.job.phase?) = [] :=
    filterMap_joining passage rfl
  cases passage with
  | stay state phase unreported spawned =>
      refine { charges := ?_, path := ?_ }
      · rw [Scene.charges, after]
        simp only [List.filterMap_append, List.filterMap_cons, phase,
          joined, List.append_nil]
        have charged := governed.charges
        rw [Scene.charges, shape] at charged
        simp only [List.filterMap_append, List.filterMap_cons] at charged
        exact charged.trans (by rw [← state]; rfl)
      · rw [entered, if_pos state, List.append_nil]
        exact state ▸ governed.path
  | move shift =>
      obtain ⟨before, reached, -, -⟩ := shift.charge
      obtain ⟨noneEarlier, noneLater⟩ := governed.others shape before
      refine { charges := ?_, path := ?_ }
      · rw [Scene.charges, after]
        simp only [joined, List.append_nil, List.filterMap_append,
          List.filterMap_cons, noneEarlier, noneLater, reached,
          List.nil_append]
        show _ = turn.host.state.phase?.toList
        cases turn.host.state.phase? <;> rfl
      · rw [entered, if_neg shift.moves.ne]
        exact governed.path.onward shift.moves

/-- In every scene the state tells who is in charge. -/
theorem Reachable.governed
    (reachable : Reachable blueprint scene) :
    Governed scene := by
  refine reachable.induct ?_ ?_ ?_ ?_
  · intro surroundings
    exact { charges := rfl, path := .here }
  · intro scene request _ governed
    have idle : (request.job : Job σ).phase? = none := by
      cases request <;> rfl
    have same : (scene.call request).charges = scene.charges := by
      simp [Scene.charges, Scene.call, idle]
    exact { charges := same.trans governed.charges, path := governed.path }
  · intro scene actor errand turn _ found stepped governed
    exact governed.turned found stepped
  · intro scene surroundings governed
    exact { charges := governed.charges, path := governed.path }

/-- Whatever happens, the state stays or makes a move. -/
theorem Governed.moves
    (governed : scene.Governed)
    (happening : Happening ρ) :
    (scene.after blueprint happening).host.state = scene.host.state ∨
      State.Move scene.host.state
        (scene.after blueprint happening).host.state := by
  cases happening with
  | call request =>
      exact .inl rfl
  | elsewhere surroundings =>
      exact .inl rfl
  | turn actor =>
      rcases after_turn blueprint scene actor with
        same | ⟨errand, turn, found, stepped, same⟩
      · exact .inl (by rw [same])
      · rw [same]
        cases governed.passage found stepped with
        | stay state phase unreported spawned =>
            exact .inl state
        | move shift =>
            exact .inr shift.moves

/-- Two errands are never in charge at once. -/
theorem Governed.unique
    (governed : Governed scene)
    {actor another : Nat}
    {errand other : Errand σ}
    {phase further : Phase}
    (found : scene.errands[actor]? = some errand)
    (present : scene.errands[another]? = some other)
    (charged : errand.job.phase? = some phase)
    (holds : other.job.phase? = some further) :
    another = actor := by
  have same : errand.job.phase? = scene.host.state.phase? :=
    charged.trans
      (governed.inPlace (List.mem_of_getElem? found) phase charged).symm
  obtain ⟨inside, here⟩ := List.getElem?_eq_some_iff.mp found
  have shape :
      scene.errands =
        scene.errands.take actor ++ errand ::
          scene.errands.drop (actor + 1) := by
    rw [← here, List.getElem_cons_drop, List.take_append_drop]
  obtain ⟨noneEarlier, noneLater⟩ := governed.others shape same
  rcases Nat.lt_trichotomy another actor with before | equal | after
  · have member : other ∈ scene.errands.take actor := by
      apply List.mem_of_getElem?
      rw [List.getElem?_take_of_lt before]
      exact present
    have idle := List.filterMap_eq_nil_iff.mp noneEarlier other member
    exact absurd (holds.symm.trans idle) (by simp)
  · exact equal
  · have member : other ∈ scene.errands.drop (actor + 1) := by
      apply List.mem_of_getElem?
      rw [List.getElem?_drop, Nat.add_sub_cancel' after]
      exact present
    have idle := List.filterMap_eq_nil_iff.mp noneLater other member
    exact absurd (holds.symm.trans idle) (by simp)

/-- While somebody is in charge, nobody else is. -/
theorem Governed.idle
    (governed : Governed scene)
    {actor another : Nat}
    {errand other : Errand σ}
    {phase : Phase}
    (found : scene.errands[actor]? = some errand)
    (charged : errand.job.phase? = some phase)
    (present : scene.errands[another]? = some other)
    (different : another ≠ actor) :
    other.job.phase? = none := by
  cases busy : other.job.phase? with
  | none =>
      rfl
  | some further =>
      exact absurd (governed.unique found present charged busy) different

/-- Whoever is in charge of a phase has the host in the state of that phase. -/
theorem Governed.state_eq
    (governed : Governed scene)
    {actor : Nat}
    {errand : Errand σ}
    {phase : Phase}
    (found : scene.errands[actor]? = some errand)
    (charged : errand.job.phase? = some phase) :
    scene.host.state = State.ofPhase phase :=
  State.phase?_eq_some.mp
    (governed.inPlace (List.mem_of_getElem? found) phase charged)

/-- Something holds of every errand of a scene. -/
def Each
    (holds : Scene σ ρ → Nat → Errand σ → Prop)
    (scene : Scene σ ρ) : Prop :=
  ∀ actor errand,
    scene.errands[actor]? = some errand →
    holds scene actor errand

/--
What holds of an errand when it is asked for, and survives its own steps and
those of others, holds of every errand.
-/
theorem Reachable.each
    {holds : Scene σ ρ → Nat → Errand σ → Prop}
    (called :
      ∀ scene request,
        Reachable blueprint scene →
        holds (scene.call request) scene.errands.length
          { request, job := request.job })
    (waits :
      ∀ scene request actor errand,
        holds scene actor errand →
        holds (scene.call request) actor errand)
    (acts :
      ∀ scene actor errand turn,
        Reachable blueprint scene →
        scene.errands[actor]? = some errand →
        blueprint.step scene.host errand.job = some turn →
        holds scene actor errand →
        holds (scene.turned actor errand turn) actor
          { errand with job := turn.next })
    (stands :
      ∀ scene actor acting turn other errand,
        Reachable blueprint scene →
        scene.errands[actor]? = some acting →
        blueprint.step scene.host acting.job = some turn →
        other ≠ actor →
        scene.errands[other]? = some errand →
        holds scene other errand →
        holds (scene.turned actor acting turn) other errand)
    (joins :
      ∀ scene actor acting turn other,
        Reachable blueprint scene →
        actor < scene.errands.length →
        scene.errands.length ≤ other →
        holds (scene.turned actor acting turn) other
          { request := .shutdown, job := .awaitSignal })
    (elsewhere :
      ∀ scene surroundings actor errand,
        holds scene actor errand →
        holds { scene with host := scene.host.within surroundings }
          actor errand)
    (reachable : Reachable blueprint scene) :
    Each holds scene := by
  refine reachable.induct ?_ ?_ ?_ ?_
  · intro surroundings actor errand present
    simp [opening] at present
  · intro scene request reached each actor errand present
    simp only [call, List.getElem?_append] at present
    by_cases old : actor < scene.errands.length
    · rw [if_pos old] at present
      exact waits scene request actor errand (each actor errand present)
    · rw [if_neg old] at present
      have inside := (List.getElem?_eq_some_iff.mp present).1
      have last : actor = scene.errands.length := by
        simp only [List.length_singleton] at inside
        omega
      rw [List.mem_singleton.mp (List.mem_of_getElem? present), last]
      exact called scene request reached
  · intro scene actor acting turn reached found stepped each other errand
      present
    have passage := reached.governed.passage found stepped
    rcases errand_turned present with
      ⟨rfl, rfl⟩ | ⟨different, same⟩ | ⟨absent, member⟩
    · exact acts scene other acting turn reached found stepped
        (each other acting found)
    · exact stands scene actor acting turn other errand reached found
        stepped different same (each other errand same)
    · rw [eq_of_mem_joining passage member]
      exact joins scene actor acting turn other reached
        (List.getElem?_eq_some_iff.mp found).1 absent
  · intro scene surroundings each actor errand present
    exact elsewhere scene surroundings actor errand
      (each actor errand present)

/-- What holds of errands when they are asked for and survives their steps holds of all. -/
theorem Reachable.eachErrand
    (holds : Errand σ → Prop)
    (called :
      ∀ request : Demand, holds { request, job := request.job })
    (waits : holds { request := .shutdown, job := .awaitSignal })
    (acts :
      ∀ scene errand turn,
        Reachable blueprint scene →
        errand ∈ scene.errands →
        blueprint.step scene.host errand.job = some turn →
        holds errand →
        holds { errand with job := turn.next })
    (reachable : Reachable blueprint scene) :
    ∀ errand ∈ scene.errands, holds errand := by
  have each : Each (fun _ _ errand => holds errand) scene := by
    refine reachable.each ?_ ?_ ?_ ?_ ?_ ?_
    · intro scene request _
      exact called request
    · intro scene request actor errand held
      exact held
    · intro scene actor errand turn reached found stepped held
      exact acts scene errand turn reached (List.mem_of_getElem? found)
        stepped held
    · intro scene actor acting turn other errand _ _ _ _ _ held
      exact held
    · intro scene actor acting turn other _ _ _
      exact waits
    · intro scene surroundings actor errand held
      exact held
  intro errand member
  obtain ⟨actor, found⟩ := List.getElem?_of_mem member
  exact each actor errand found

/-- Every deed stays in its place or moves the state. -/
theorem Reachable.passage
    (reachable : Reachable blueprint scene)
    {deed : Deed σ ρ}
    (member : deed ∈ scene.history) :
    Passage deed.before deed.job deed.turn := by
  obtain ⟨past, done⟩ := reachable.past member
  rw [← done.host]
  exact done.reachable.governed.passage done.errand done.stepped

/-- Whoever does something in charge of a phase is in the place that the state tells of. -/
theorem Reachable.inPlace
    (reachable : Reachable blueprint scene)
    {deed : Deed σ ρ}
    (member : deed ∈ scene.history) :
    deed.job.InPlace deed.before.state := by
  obtain ⟨past, done⟩ := reachable.past member
  rw [← done.host]
  exact done.reachable.governed.inPlace
    (List.mem_of_getElem? done.errand)

/-- The state that a deed has found is where the deeds before it have led. -/
theorem Reachable.pathBefore
    (reachable : Reachable blueprint scene)
    {earlier later : List (Deed σ ρ)}
    {deed : Deed σ ρ}
    (shape : scene.history = earlier ++ deed :: later) :
    State.Path (earlier.filterMap Deed.entered?) deed.before.state := by
  obtain ⟨past, done, same⟩ :=
    reachable.chronicled earlier deed later shape
  have path := done.reachable.governed.path
  rw [trail, same, done.host] at path
  exact path

end Scene

end PluggableHost.Lifecycle
