import PluggableHost.Proofs.Lifecycle.Progress
import PluggableHost.Proofs.Net.Handles

namespace PluggableHost.Lifecycle

open PluggableHost.Net PluggableHost.Observability PluggableHost.Plugin

/-!
# Where the listeners are

A listener that was opened is in the hands of the start that opened it, then in
the host, then in the hands of whoever has taken it to stop it, until it has come
to its end.  What a step does with listeners is said once, and everything else
about them follows.
-/

variable {σ ρ : Type}

namespace Job

/-- The listeners that a job has in hand. -/
def holding : Job σ → List Listener
  | keep _ listeners | stop _ (.dismiss listeners)
  | stop _ (.await listeners) => listeners
  | _ => []

/-- The job has listeners in hand, be they none. -/
def handles : Job σ → Bool
  | keep _ _ | stop _ (.dismiss _) | stop _ (.await _) => true
  | _ => false

/-- A job that handles no listeners holds none. -/
theorem holding_of_not_handles
    {job : Job σ}
    (free : job.handles = false) :
    job.holding = [] := by
  cases job with
  | keep service listeners =>
      cases free
  | stop purpose stopping =>
      cases stopping with
      | take =>
          rfl
      | _ =>
          cases free
  | _ =>
      rfl

/-- The job of a start that has opened its listeners, and not turned the heartbeat on. -/
def isReady : Job σ → Bool
  | keep _ _ | turnHeartbeatOn => true
  | _ => false

/-- The job stops listeners because somebody has asked for just that. -/
def isOwnStop : Job σ → Bool
  | stop none _ => true
  | _ => false

/-- Whoever is in charge has taken the listeners out of the host. -/
def hasCleared : Job σ → Bool
  | stop (some _) (.dismiss _) | stop (some _) (.await _)
  | forgetPending _ | enterStopped => true
  | _ => false

end Job

/-- What a step does with listeners and sockets. -/
inductive Handling
    (blueprint : Blueprint σ ρ)
    (host : Host σ ρ) : Job σ → Turn σ ρ → Prop where
  | idle
      {job : Job σ}
      {turn : Turn σ ρ}
      (listening : turn.host.listening = host.listening)
      (network : turn.host.network = host.network)
      (empty : job.holding = [])
      (nothing : turn.next.handles = false)
      (unready : turn.next.isReady = false)
      (own : turn.next.isOwnStop = true → job.isOwnStop = true)
      (cleared : turn.next.hasCleared = true → job.hasCleared = true) :
      Handling blueprint host job turn
  | opens
      {service : Handler σ}
      {hasContext : Bool}
      {listeners : List Listener}
      {turn : Turn σ ρ}
      (opened :
        (openListeners blueprint.settings hasContext
          host.network).outcome = .ok listeners)
      (network :
        turn.host.network =
          (openListeners blueprint.settings hasContext
            host.network).network)
      (listening : turn.host.listening = host.listening)
      (next : turn.next = .keep service listeners) :
      Handling blueprint host (.listen service hasContext) turn
  | fails
      {service : Handler σ}
      {hasContext : Bool}
      {failure : HostError}
      {turn : Turn σ ρ}
      (network :
        turn.host.network =
          (openListeners blueprint.settings hasContext
            host.network).network)
      (listening : turn.host.listening = host.listening)
      (next : turn.next = .reportFailure failure) :
      Handling blueprint host (.listen service hasContext) turn
  | keeps
      {service : Handler σ}
      {listeners : List Listener}
      {turn : Turn σ ρ}
      (network : turn.host.network = host.network)
      (listening : turn.host.listening = some { listeners })
      (next :
        turn.next = .turnHeartbeatOn ∨ turn.next = .enterRunning) :
      Handling blueprint host (.keep service listeners) turn
  | takes
      {purpose : Option Purpose}
      {turn : Turn σ ρ}
      (network : turn.host.network = host.network)
      (listening : turn.host.listening = none)
      (next :
        turn.next = .afterStop purpose ∧ host.listeners = [] ∨
          turn.next = .stop purpose (.dismiss host.listeners) ∧
            host.listeners ≠ []) :
      Handling blueprint host (.stop purpose .take) turn
  | dismisses
      {purpose : Option Purpose}
      {listeners : List Listener}
      {turn : Turn σ ρ}
      (network :
        turn.host.network = setStages .draining listeners host.network)
      (listening : turn.host.listening = host.listening)
      (next : turn.next = .stop purpose (.await listeners)) :
      Handling blueprint host (.stop purpose (.dismiss listeners)) turn
  | ends
      {purpose : Option Purpose}
      {listener : Listener}
      {rest : List Listener}
      {turn : Turn σ ρ}
      (finished : host.network.isOpen listener.handle = false)
      (same : turn.host = host)
      (next : turn.next = .stop purpose (.await rest)) :
      Handling blueprint host (.stop purpose (.await (listener :: rest)))
        turn

namespace Blueprint

variable
  {blueprint : Blueprint σ ρ}
  {host : Host σ ρ}
  {job : Job σ}
  {turn : Turn σ ρ}

/-- A step of a job without listeners that leaves all of them alone. -/
theorem handling_of_idle
    (listening : turn.host.listening = host.listening)
    (network : turn.host.network = host.network)
    (empty : job.holding = [])
    (nothing : turn.next.handles = false)
    (unready : turn.next.isReady = false)
    (own : turn.next.isOwnStop = false)
    (cleared : turn.next.hasCleared = false) :
    Handling blueprint host job turn := by
  refine .idle listening network empty nothing unready ?_ ?_
  · intro next
    rw [own] at next
    cases next
  · intro next
    rw [cleared] at next
    cases next

/-- A request for a shutdown leaves listeners and sockets alone. -/
theorem handling_of_asks
    (same : turn.host = host.claimShutdown.2)
    (empty : job.holding = [])
    (nothing : turn.next.handles = false)
    (unready : turn.next.isReady = false)
    (own : turn.next.isOwnStop = false)
    (cleared : turn.next.hasCleared = false) :
    Handling blueprint host job turn := by
  refine handling_of_idle ?_ ?_ empty nothing unready own cleared <;>
    rw [same] <;>
      unfold Host.claimShutdown <;>
        split <;> rfl

/-- Moving the state alone hands no listener to anybody. -/
theorem handling_of_advance
    (source target : State)
    (same : turn.host = (host.advance source target).2)
    (empty : job.holding = [])
    (nothing : turn.next.handles = false)
    (unready : turn.next.isReady = false)
    (own : turn.next.isOwnStop = false)
    (cleared : turn.next.hasCleared = false) :
    Handling blueprint host job turn := by
  refine handling_of_idle ?_ ?_ empty nothing unready own cleared <;>
    rw [same] <;>
      unfold Host.advance <;>
        split <;> rfl

/-- A stop takes the listeners off the host, waits for them and lets them go. -/
theorem handling_of_stopping
    {purpose : Option Purpose}
    {stopping : Stopping}
    (stepped : stoppingStep host purpose stopping = some turn) :
    Handling blueprint host (.stop purpose stopping) turn := by
  cases stopping with
  | take =>
      cases stepped
      refine .takes rfl rfl ?_
      dsimp only
      split
      · next none =>
        exact .inl ⟨rfl, List.isEmpty_iff.mp none⟩
      · next some =>
        exact .inr ⟨rfl, mt List.isEmpty_iff.mpr some⟩
  | dismiss listeners =>
      cases stepped
      exact .dismisses rfl rfl rfl
  | await listeners =>
      cases listeners with
      | nil =>
          cases stepped
          cases purpose with
          | none =>
              exact handling_of_idle rfl rfl rfl rfl rfl rfl rfl
          | some purpose =>
              cases purpose <;>
                exact .idle rfl rfl rfl rfl rfl (fun own => nomatch own)
                  (fun _ => rfl)
      | cons listener rest =>
          simp only [stoppingStep] at stepped
          split at stepped
          · cases stepped
          · next finished =>
            cases stepped
            exact .ends (Bool.not_eq_true _ ▸ finished) rfl rfl

/-- A withdrawal hands no listener to anybody. -/
theorem handling_of_withdrawal
    (purpose : Purpose)
    (withdrawal : Withdrawal) :
    Handling blueprint host (.withdraw purpose withdrawal)
      (blueprint.withdrawalStep host purpose withdrawal) := by
  cases withdrawal with
  | untrack endpoints =>
      cases endpoints with
      | nil =>
          cases purpose <;>
            exact handling_of_idle rfl rfl rfl rfl rfl rfl rfl
      | cons endpoint rest =>
          exact handling_of_idle rfl rfl rfl rfl rfl rfl rfl
  | tell endpoint rest =>
      unfold withdrawalStep
      dsimp only
      split <;>
        exact handling_of_idle rfl rfl rfl rfl rfl rfl rfl

/-- What a step does with listeners and sockets is known from the job. -/
theorem handling_of_step
    (stepped : blueprint.step host job = some turn) :
    Handling blueprint host job turn := by
  cases job with
  | begin =>
      simp only [step] at stepped
      split at stepped <;>
        cases stepped <;>
          exact
            handling_of_advance .notStarted .starting rfl rfl rfl rfl rfl
              rfl
  | giveUp failure =>
      simp only [step] at stepped
      split at stepped <;>
        cases stepped <;>
          exact
            handling_of_advance .starting .stopped rfl rfl rfl rfl rfl rfl
  | enterRunning =>
      simp only [step] at stepped
      split at stepped <;>
        cases stepped <;>
          exact
            handling_of_advance .starting .running rfl rfl rfl rfl rfl rfl
  | enterStopped =>
      simp only [step] at stepped
      split at stepped <;>
        cases stepped <;>
          exact
            handling_of_advance .shuttingDown .stopped rfl rfl rfl rfl rfl rfl
  | claim =>
      cases stepped
      exact handling_of_asks rfl rfl rfl rfl rfl rfl
  | reportClaim claim =>
      cases claim <;>
        cases stepped <;>
          exact handling_of_idle rfl rfl rfl rfl rfl rfl rfl
  | listen service hasContext =>
      cases opened :
          (openListeners blueprint.settings hasContext
            host.network).outcome with
      | error failure =>
          simp only [step, opened] at stepped
          cases stepped
          exact .fails rfl rfl rfl
      | ok listeners =>
          simp only [step, opened] at stepped
          cases stepped
          exact .opens opened rfl rfl rfl
  | keep service listeners =>
      cases stepped
      refine .keeps rfl rfl ?_
      dsimp only
      split
      · exact .inl rfl
      · exact .inr rfl
  | offer endpoints =>
      cases endpoints with
      | nil =>
          cases stepped
          exact handling_of_idle rfl rfl rfl rfl rfl rfl rfl
      | cons endpoint rest =>
          simp only [step] at stepped
          (repeat' split at stepped) <;>
            cases stepped <;>
              exact handling_of_idle rfl rfl rfl rfl rfl rfl rfl
  | runHooks phase failures hooks =>
      cases hooks with
      | nil =>
          cases stepped
          cases phase with
          | startup =>
              refine handling_of_idle rfl rfl rfl ?_ ?_ ?_ ?_ <;>
                simp only [afterHooks] <;>
                  split <;> rfl
          | shutdown =>
              exact handling_of_idle rfl rfl rfl rfl rfl rfl rfl
      | cons hook rest =>
          cases stepped
          exact handling_of_idle rfl rfl rfl rfl rfl rfl rfl
  | runHook phase failures hook actions rest =>
      cases actions with
      | nil =>
          cases stepped
          cases phase with
          | startup =>
              refine handling_of_idle rfl rfl rfl ?_ ?_ ?_ ?_ <;>
                simp only [endHook] <;>
                  split <;> rfl
          | shutdown =>
              exact handling_of_idle rfl rfl rfl rfl rfl rfl rfl
      | cons action others =>
          cases stepped
          cases action with
          | shutdown =>
              unfold act
              dsimp only
              split <;>
                exact handling_of_asks rfl rfl rfl rfl rfl rfl
          | _ =>
              exact handling_of_idle rfl rfl rfl rfl rfl rfl rfl
  | withdraw purpose withdrawal =>
      cases stepped
      exact handling_of_withdrawal purpose withdrawal
  | stop purpose stopping =>
      exact handling_of_stopping stepped
  | _ =>
      simp only [step, proceed] at stepped
      (repeat' split at stepped) <;>
        cases stepped <;>
          exact handling_of_idle rfl rfl rfl rfl rfl rfl rfl

end Blueprint

namespace Deed

/-- The listeners that a deed has opened. -/
def opened (deed : Deed σ ρ) : List Listener :=
  match deed.job with
  | .listen _ _ => deed.turn.next.holding
  | _ => []

/-- The listener that a deed has seen come to its end. -/
def ended (deed : Deed σ ρ) : List Listener :=
  match deed.job with
  | .stop _ (.await (listener :: _)) => [listener]
  | _ => []

/-- A deed hands listeners on, and drops none. -/
theorem conserves
    {blueprint : Blueprint σ ρ}
    (deed : Deed σ ρ)
    (handling :
      Handling blueprint deed.before deed.job deed.turn)
    (vacant : deed.job.keeps = true → deed.before.listening = none)
    (listener : Listener) :
    deed.opened.count listener + deed.before.listeners.count listener +
        deed.job.holding.count listener =
      deed.ended.count listener + deed.turn.host.listeners.count listener +
        deed.turn.next.holding.count listener := by
  obtain ⟨actor, request, job, host, after, following, journal, spawned⟩ :=
    deed
  dsimp only at handling vacant ⊢
  cases handling with
  | idle listening network empty nothing unready own cleared =>
      dsimp only at listening nothing
      have freed : following.holding = [] :=
        Job.holding_of_not_handles nothing
      have unopened :
          Deed.opened
              ⟨actor, request, job, host, after, following, journal,
                spawned⟩ = [] := by
        unfold Deed.opened
        split
        · exact freed
        · rfl
      have unended :
          Deed.ended
              ⟨actor, request, job, host, after, following, journal,
                spawned⟩ = [] := by
        unfold Deed.ended
        split
        · next same =>
          rw [show job = _ from same] at empty
          cases empty
        · rfl
      rw [unopened, unended, empty, freed, Host.listeners, Host.listeners,
        listening]
  | opens opened network listening next =>
      dsimp only at listening next
      subst next
      simp only [Deed.opened, Deed.ended, Host.listeners, listening,
        Job.holding, List.count_nil]
      omega
  | fails network listening next =>
      dsimp only at listening next
      subst next
      simp only [Deed.opened, Deed.ended, Host.listeners, listening,
        Job.holding]
  | keeps network listening next =>
      dsimp only at listening next
      have none : host.listening = none := vacant rfl
      rcases next with next | next <;>
        subst next <;>
        simp [Deed.opened, Deed.ended, Host.listeners, listening, none,
          Job.holding]
  | takes network listening next =>
      rename_i purpose
      dsimp only at listening next
      rcases next with ⟨next, empty⟩ | ⟨next, -⟩ <;>
        subst next
      · have nothing : (Job.afterStop purpose : Job σ).holding = [] := by
          cases purpose with
          | none =>
              rfl
          | some purpose =>
              cases purpose <;> rfl
        rw [empty, nothing]
        simp [Deed.opened, Deed.ended, Host.listeners, listening,
          Job.holding]
      · simp [Deed.opened, Deed.ended, Host.listeners, listening,
          Job.holding]
  | dismisses network listening next =>
      dsimp only at listening next
      subst next
      simp only [Deed.opened, Deed.ended, Host.listeners, listening,
        Job.holding]
  | ends finished same next =>
      dsimp only at same next
      subst same next
      simp only [Deed.opened, Deed.ended, Job.holding, List.count_nil,
        List.count_cons]
      omega

end Deed

namespace Blueprint

variable
  {blueprint : Blueprint σ ρ}
  {host : Host σ ρ}
  {job : Job σ}
  {turn : Turn σ ρ}

/-- Sockets are only opened and closed, and no handle is used twice. -/
theorem grows_of_step
    (stepped : blueprint.step host job = some turn) :
    host.network.Grows turn.host.network := by
  cases handling_of_step stepped with
  | idle listening network empty nothing unready own cleared =>
      rw [network]
      exact .refl _
  | opens opened network listening next
  | fails network listening next =>
      rw [network]
      exact grows_openListeners _ _ _
  | keeps network listening next | takes network listening next =>
      rw [network]
      exact .refl _
  | dismisses network listening next =>
      rw [network]
      exact grows_setStages _ _ _
  | ends finished same next =>
      rw [same]
      exact .refl _

/-- Whoever stops listeners of his own accord has done nothing else. -/
theorem isOwnStop_of_step
    (stepped : blueprint.step host job = some turn)
    (own : turn.next.isOwnStop = true) :
    job.isOwnStop = true := by
  cases handling_of_step stepped with
  | idle listening network empty nothing unready kept cleared =>
      exact kept own
  | takes network listening next =>
      rename_i purpose
      rcases next with ⟨next, -⟩ | ⟨next, -⟩ <;>
        rw [next] at own
      · cases purpose with
        | none =>
            rfl
        | some purpose =>
            cases purpose <;> cases own
      · cases purpose with
        | none =>
            rfl
        | some purpose =>
            cases own
  | keeps network listening next =>
      rcases next with next | next <;>
        rw [next] at own <;>
          cases own
  | dismisses network listening next =>
      rename_i purpose _
      rw [next] at own
      cases purpose with
      | none =>
          rfl
      | some purpose =>
          cases own
  | ends finished same next =>
      rename_i purpose _ _
      rw [next] at own
      cases purpose with
      | none =>
          rfl
      | some purpose =>
          cases own
  | opens opened network listening next
  | fails network listening next =>
      rw [next] at own
      cases own

/-- Whoever is in charge clears the host of its listeners by taking them. -/
theorem cleared_of_step
    (stepped : blueprint.step host job = some turn)
    (cleared : turn.next.hasCleared = true) :
    turn.host.listening = none ∨
      (job.hasCleared = true ∧ turn.host.listening = host.listening) := by
  cases handling_of_step stepped with
  | idle listening network empty nothing unready own before =>
      exact .inr ⟨before cleared, listening⟩
  | takes network listening next =>
      exact .inl listening
  | keeps network listening next =>
      rcases next with next | next <;>
        rw [next] at cleared <;>
          cases cleared
  | dismisses network listening next =>
      rename_i purpose _
      rw [next] at cleared
      cases purpose with
      | none =>
          cases cleared
      | some purpose =>
          exact .inr ⟨rfl, listening⟩
  | ends finished same next =>
      rename_i purpose _ _
      rw [next] at cleared
      cases purpose with
      | none =>
          cases cleared
      | some purpose =>
          exact .inr ⟨rfl, by rw [same]⟩
  | opens opened network listening next
  | fails network listening next =>
      rw [next] at cleared
      cases cleared

end Blueprint

/-- A job about to keep the listeners is a start that has not kept them yet. -/
theorem Job.phase?_of_keeps
    {job : Job σ}
    (keeps : job.keeps = true) :
    job.phase? = some .startup ∧ job.hasKept = false := by
  cases job with
  | keep service listeners =>
      exact ⟨rfl, rfl⟩
  | _ =>
      cases keeps

/-- A job that has taken the listeners for its phase is of that phase. -/
theorem Job.phase?_of_hasCleared
    {job : Job σ}
    (cleared : job.hasCleared = true) :
    ∃ phase, job.phase? = some phase := by
  cases job with
  | stop purpose stopping =>
      cases purpose with
      | none =>
          cases cleared
      | some purpose =>
          exact ⟨purpose.phase, rfl⟩
  | forgetPending _ | enterStopped =>
      exact ⟨_, rfl⟩
  | _ =>
      cases cleared

namespace Scene

variable
  {blueprint : Blueprint σ ρ}
  {scene : Scene σ ρ}

/-- The listeners that were ever opened, in order. -/
def opened (scene : Scene σ ρ) : List Listener :=
  scene.history.flatMap Deed.opened

/-- The listeners that were seen come to their end, in order. -/
def ended (scene : Scene σ ρ) : List Listener :=
  scene.history.flatMap Deed.ended

/-- The listeners that errands have in hand. -/
def held (scene : Scene σ ρ) : List Listener :=
  scene.errands.flatMap fun errand => errand.job.holding

/-- A host has no listeners yet when a start hands them over. -/
theorem Reachable.vacant
    (reachable : Reachable blueprint scene)
    {errand : Errand σ}
    (member : errand ∈ scene.errands)
    (keeps : errand.job.keeps = true) :
    scene.host.listening = none := by
  obtain ⟨starts, notKept⟩ := Job.phase?_of_keeps keeps
  exact reachable.unheard.rising errand member starts notKept

/-- A step changes what one errand holds, and nothing else that errands hold. -/
theorem count_held_turned
    {actor : Nat}
    {errand : Errand σ}
    {turn : Turn σ ρ}
    (passage : Passage scene.host errand.job turn)
    (found : scene.errands[actor]? = some errand)
    (listener : Listener) :
    (scene.turned actor errand turn).held.count listener +
        errand.job.holding.count listener =
      scene.held.count listener + turn.next.holding.count listener := by
  obtain ⟨earlier, later, before, -, after⟩ := errands_split found turn
  have joined :
      (joining turn).flatMap (fun other => other.job.holding) = [] := by
    apply List.flatMap_eq_nil_iff.mpr
    intro other member
    rw [eq_of_mem_joining passage member]
    rfl
  rw [held, held, before, after]
  simp only [List.flatMap_append, List.flatMap_cons, joined,
    List.append_nil, List.count_append]
  omega

/-- Every listener that was opened is somewhere, or has come to its end. -/
def Conserved (scene : Scene σ ρ) : Prop :=
  ∀ listener,
    scene.opened.count listener =
      scene.ended.count listener + scene.host.listeners.count listener +
        scene.held.count listener

/-- No reachable scene has lost or doubled a listener. -/
theorem Reachable.conserved
    (reachable : Reachable blueprint scene) :
    Conserved scene := by
  refine reachable.induct ?_ ?_ ?_ ?_
  · intro surroundings listener
    rfl
  · intro scene request _ conserved
    have same : (scene.call request).held = scene.held := by
      cases request <;>
        simp [held, Scene.call, Demand.job, Job.holding, Job.stopListeners]
    intro listener
    rw [same]
    exact conserved listener
  · intro scene actor errand turn reached found stepped conserved listener
    let deed : Deed σ ρ :=
      { actor, request := errand.request, job := errand.job,
        before := scene.host, turn }
    have handed :=
      deed.conserves (Blueprint.handling_of_step stepped)
        (reached.vacant (List.mem_of_getElem? found)) listener
    have before := conserved listener
    have moved :=
      count_held_turned (reached.governed.passage found stepped) found
        listener
    have opened :
        (scene.turned actor errand turn).opened =
          scene.opened ++ deed.opened := by
      simp [Scene.opened, Scene.turned, deed]
    have ended :
        (scene.turned actor errand turn).ended =
          scene.ended ++ deed.ended := by
      simp [Scene.ended, Scene.turned, deed]
    rw [opened, ended, List.count_append, List.count_append]
    simp only [deed] at handed ⊢
    simp only [Scene.turned] at moved ⊢
    omega
  · intro scene surroundings conserved
    exact conserved

/-- Nobody has handed listeners to the host since they were taken on behalf of a phase. -/
structure Cleared (scene : Scene σ ρ) : Prop where
  jobs :
    ∀ errand ∈ scene.errands,
      errand.job.hasCleared = true →
      scene.host.listening = none
  state :
    scene.host.state = .stopped →
      scene.host.listening = none

/-- A step hands the host no listeners once they were taken on behalf of a phase. -/
theorem Cleared.turned
    {actor : Nat}
    {errand : Errand σ}
    {turn : Turn σ ρ}
    (cleared : Cleared scene)
    (reachable : Reachable blueprint scene)
    (found : scene.errands[actor]? = some errand)
    (stepped : blueprint.step scene.host errand.job = some turn) :
    Cleared (scene.turned actor errand turn) := by
  have governed := reachable.governed
  have member := List.mem_of_getElem? found
  have passage := governed.passage found stepped
  have leaves := Blueprint.leaves_of_step stepped
  constructor
  · refine forall_turned passage ?_ ?_ (fun cleared => nomatch cleared)
    · intro taken
      rcases Blueprint.cleared_of_step stepped taken with
        none | ⟨before, same⟩
      · exact none
      · exact same.trans (cleared.jobs errand member before)
    · intro place other present different taken
      obtain ⟨phase, charged⟩ := Job.phase?_of_hasCleared taken
      have idle : errand.job.phase? = none :=
        governed.idle present charged found (Ne.symm different)
      refine leaves.listening ?_
        (cleared.jobs other (List.mem_of_getElem? present) taken)
      rw [Bool.eq_false_iff]
      intro keeps
      rw [(Job.phase?_of_keeps keeps).1] at idle
      cases idle
  · intro stopped
    cases passage with
    | stay state phase unreported spawned =>
        have before : scene.host.state = .stopped :=
          state.symm.trans stopped
        refine leaves.listening ?_ (cleared.state before)
        rw [Bool.eq_false_iff]
        intro keeps
        have held :=
          governed.inPlace member .startup (Job.phase?_of_keeps keeps).1
        rw [before] at held
        cases held
    | move shift =>
        obtain ⟨request, job⟩ := errand
        cases shift with
        | neverStarted source =>
            exact leaves.listening rfl (reachable.unheard.fresh source)
        | startFailed source =>
            exact leaves.listening rfl
              (reachable.unheard.rising _ member rfl rfl)
        | finish source =>
            exact leaves.listening rfl (cleared.jobs _ member rfl)
        | _ =>
            cases stopped

/-- In no reachable scene has the host listeners after a phase has taken them. -/
theorem Reachable.cleared
    (reachable : Reachable blueprint scene) :
    Cleared scene := by
  refine reachable.induct ?_ ?_ ?_ ?_
  · intro surroundings
    exact { jobs := fun _ _ _ => rfl, state := fun _ => rfl }
  · intro scene request _ cleared
    refine { jobs := ?_, state := cleared.state }
    intro errand member taken
    rcases List.mem_append.mp member with earlier | last
    · exact cleared.jobs errand earlier taken
    · rw [List.mem_singleton.mp last] at taken
      cases request <;> cases taken
  · intro scene actor errand turn reached found stepped cleared
    exact cleared.turned reached found stepped
  · intro scene surroundings cleared
    exact { jobs := cleared.jobs, state := cleared.state }

/-- As many listeners as there are protocols are opened and handed over. -/
structure Sized
    (blueprint : Blueprint σ ρ)
    (scene : Scene σ ρ) : Prop where
  host :
    scene.host.listeners.length ≤
      blueprint.settings.enabledProtocols.length
  jobs :
    ∀ errand ∈ scene.errands,
      errand.job.keeps = true →
      errand.job.holding.length =
        blueprint.settings.enabledProtocols.length

/-- A step keeps every list of listeners within the settings' bound. -/
theorem Sized.turned
    {actor : Nat}
    {errand : Errand σ}
    {turn : Turn σ ρ}
    (sized : Sized blueprint scene)
    (passage : Passage scene.host errand.job turn)
    (found : scene.errands[actor]? = some errand)
    (stepped : blueprint.step scene.host errand.job = some turn) :
    Sized blueprint (scene.turned actor errand turn) := by
  have member := List.mem_of_getElem? found
  obtain ⟨request, job⟩ := errand
  constructor
  · show turn.host.listeners.length ≤ _
    have same
        (listening : turn.host.listening = scene.host.listening) :
        turn.host.listeners.length ≤
          blueprint.settings.enabledProtocols.length := by
      rw [Host.listeners, listening]
      exact sized.host
    cases Blueprint.handling_of_step stepped with
    | keeps network listening next =>
        rw [Host.listeners, listening]
        exact Nat.le_of_eq (sized.jobs _ member rfl)
    | takes network listening next =>
        rw [Host.listeners, listening]
        exact Nat.zero_le _
    | ends finished unchanged next =>
        exact same (by rw [unchanged])
    | idle listening network empty nothing unready own cleared
    | opens opened network listening next
    | fails network listening next
    | dismisses network listening next =>
        exact same listening
  · refine forall_turned passage ?_ ?_ (fun keeps => Bool.noConfusion keeps)
    · intro keeps
      dsimp only at keeps ⊢
      have ready : turn.next.isReady = true := by
        cases next : turn.next <;>
          simp [next, Job.keeps] at keeps
        rfl
      cases Blueprint.handling_of_step stepped with
      | idle listening network empty nothing unready own cleared =>
          rw [unready] at ready
          cases ready
      | opens opened network listening next =>
          obtain ⟨-, protocols, -⟩ := sockets_of_openListeners_ok opened
          rw [next, ← protocols, List.length_map]
          rfl
      | keeps network listening next =>
          rcases next with next | next <;>
            rw [next] at keeps <;>
              cases keeps
      | takes network listening next =>
          rename_i purpose
          rcases next with ⟨next, -⟩ | ⟨next, -⟩ <;>
            rw [next] at keeps
          · cases purpose with
            | none =>
                cases keeps
            | some purpose =>
                cases purpose <;> cases keeps
          · cases keeps
      | fails network listening next | dismisses network listening next
      | ends finished same next =>
          rw [next] at keeps
          cases keeps
    · intro place other present different keeps
      exact sized.jobs other (List.mem_of_getElem? present) keeps

/-- No reachable scene holds more listeners than the settings enable. -/
theorem Reachable.sized
    (reachable : Reachable blueprint scene) :
    Sized blueprint scene := by
  refine reachable.induct ?_ ?_ ?_ ?_
  · intro surroundings
    exact
      { host := Nat.zero_le _
        jobs := fun _ member => absurd member List.not_mem_nil }
  · intro scene request _ sized
    refine { host := sized.host, jobs := ?_ }
    intro errand member keeps
    rcases List.mem_append.mp member with earlier | last
    · exact sized.jobs errand earlier keeps
    · rw [List.mem_singleton.mp last] at keeps
      cases request <;> cases keeps
  · intro scene actor errand turn reached found stepped sized
    exact sized.turned (reached.governed.passage found stepped) found
      stepped
  · intro scene surroundings sized
    exact { host := sized.host, jobs := sized.jobs }

end Scene

end PluggableHost.Lifecycle
