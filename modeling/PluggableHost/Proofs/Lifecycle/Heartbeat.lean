import PluggableHost.Proofs.Lifecycle.Listeners
import PluggableHost.Proofs.Lifecycle.Published

namespace PluggableHost.Lifecycle

open PluggableHost.Net PluggableHost.Observability PluggableHost.Plugin PluggableHost.Registry

/-!
# The heartbeat switch

A start turns the heartbeat on when its endpoints are published and its listeners
are open, and a shutdown turns it off before it withdraws anything.  Nobody else
touches the switch, so a heart beats only for endpoints that are all registered,
and never before a host was started or after it has stopped.
-/

variable {σ ρ : Type}

/-- The heartbeat is on. -/
def Host.isLit (host : Host σ ρ) : Bool :=
  host.registrar.switches.isOn heartbeat

/-- Asking for a shutdown leaves the heartbeat as it was. -/
theorem Host.isLit_claimShutdown
    (host : Host σ ρ) :
    host.claimShutdown.2.isLit = host.isLit := by
  simp only [isLit, registrar_claimShutdown]

namespace Job

/-- The next step of the job turns the heartbeat on or off. -/
def switches : Job σ → Bool
  | turnHeartbeatOn | turnHeartbeatOff => true
  | _ => false

/-- Whoever is in charge while the heartbeat is on. -/
def beats : Job σ → Bool
  | enterRunning | reportClaim .won | announceShutdown
  | turnHeartbeatOff => true
  | _ => false

/-- Nothing is withdrawn while the heartbeat is on. -/
theorem opened_of_beats
    {job : Job σ}
    {endpoints : List Endpoint}
    {ledger : Ledger}
    (beats : job.beats = true)
    (books : job.Books endpoints ledger) :
    ledger.Opened endpoints := by
  cases job with
  | reportClaim claim =>
      cases claim with
      | won =>
          exact books
      | _ =>
          cases beats
  | enterRunning | announceShutdown | turnHeartbeatOff =>
      exact books
  | _ =>
      cases beats

/-- The job of a start that has not come to the heartbeat yet, or turns it on next. -/
def isUnlit : Job σ → Bool
  | enterRunning => false
  | job => job.phase? = some .startup

/-- A job before the heartbeat is lit belongs to the start. -/
theorem phase?_of_isUnlit
    {job : Job σ}
    (unlit : job.isUnlit = true) :
    job.phase? = some .startup := by
  cases job with
  | enterRunning =>
      cases unlit
  | _ =>
      exact of_decide_eq_true unlit

/-- A start whose heartbeat beats has published its endpoints. -/
theorem hasPublished_of_beats
    {job : Job σ}
    (beats : job.beats = true) :
    job.hasPublished = true := by
  cases job with
  | reportClaim claim =>
      cases claim with
      | won =>
          rfl
      | _ =>
          cases beats
  | enterRunning | announceShutdown | turnHeartbeatOff =>
      rfl
  | _ =>
      cases beats

end Job

namespace Deed

/-- The step of a deed turns the heartbeat on. -/
def lights (deed : Deed σ ρ) : Bool :=
  !deed.before.isLit && deed.turn.host.isLit

/-- The step of a deed opens one listener for each enabled protocol, and they serve. -/
def Opens
    (blueprint : Blueprint σ ρ)
    (deed : Deed σ ρ) : Prop :=
  ∃ service listeners,
    deed.turn.next = .keep service listeners ∧
    listeners.map Listener.protocol =
      blueprint.settings.enabledProtocols ∧
    deed.turn.host.network.sockets =
      deed.before.network.sockets ++
        listeners.map fun listener => listener.socket .serving

end Deed

namespace Blueprint

variable
  {blueprint : Blueprint σ ρ}
  {host : Host σ ρ}
  {job : Job σ}
  {turn : Turn σ ρ}

/-- Stopping the listeners leaves the heartbeat as it was. -/
theorem isLit_of_stopping
    {purpose : Option Purpose}
    {stopping : Stopping}
    (stepped : stoppingStep host purpose stopping = some turn) :
    turn.host.isLit = host.isLit := by
  cases stopping with
  | await listeners =>
      cases listeners with
      | nil =>
          cases stepped
          rfl
      | cons listener rest =>
          simp only [stoppingStep] at stepped
          split at stepped <;> cases stepped
          rfl
  | _ =>
      cases stepped
      rfl

/-- A step of a withdrawal leaves the heartbeat as it was. -/
theorem isLit_of_withdrawal
    (purpose : Purpose)
    (withdrawal : Withdrawal) :
    (blueprint.withdrawalStep host purpose withdrawal).host.isLit =
      host.isLit := by
  cases withdrawal with
  | untrack endpoints =>
      cases endpoints with
      | nil =>
          rfl
      | cons endpoint rest =>
          unfold withdrawalStep Registrar.untrack Host.isLit
          dsimp only
          split <;> rfl
  | tell endpoint rest =>
      unfold withdrawalStep
      dsimp only
      split <;> rfl

/-- Two steps only touch the heartbeat. -/
theorem isLit_of_step
    (stepped : blueprint.step host job = some turn)
    (plain : job.switches = false) :
    turn.host.isLit = host.isLit := by
  cases job with
  | turnHeartbeatOn | turnHeartbeatOff =>
      cases plain
  | stop purpose stopping =>
      exact isLit_of_stopping stepped
  | withdraw purpose withdrawal =>
      cases stepped
      exact isLit_of_withdrawal purpose withdrawal
  | claim =>
      cases stepped
      exact host.isLit_claimShutdown
  | offer endpoints =>
      cases endpoints with
      | nil =>
          cases stepped
          rfl
      | cons endpoint rest =>
          simp only [step] at stepped
          split at stepped <;>
            cases stepped <;>
              rfl
  | runHooks phase failures hooks =>
      cases hooks <;>
        cases stepped <;>
          rfl
  | runHook phase failures hook actions rest =>
      cases actions with
      | nil =>
          cases stepped
          cases phase <;> rfl
      | cons action others =>
          cases stepped
          cases action with
          | shutdown =>
              unfold act
              dsimp only
              split <;>
                exact host.isLit_claimShutdown
          | _ =>
              rfl
  | begin | enterRunning | giveUp failure | enterStopped =>
      simp only [step] at stepped
      split at stepped <;>
        cases stepped <;>
          simp [Host.isLit]
  | _ =>
      simp only [step, proceed] at stepped
      (repeat' split at stepped) <;>
        cases stepped <;>
          rfl

/-- Once its switch is turned off the heartbeat is dark. -/
theorem not_lit_of_turnHeartbeatOff
    (stepped : blueprint.step host .turnHeartbeatOff = some turn) :
    turn.host.isLit = false := by
  cases stepped
  unfold Host.isLit Registrar.deactivateHeartbeat
  dsimp only
  split
  · exact SwitchBoard.isOn_set_self _ _ _
  · next dark =>
    exact Bool.not_eq_true _ ▸ dark

/-- A heartbeat that is on after a step was on before, or the step has turned it on. -/
theorem lit_before_or_turnHeartbeatOn
    (stepped : blueprint.step host job = some turn)
    (lit : turn.host.isLit = true) :
    job = .turnHeartbeatOn ∨
      (job.switches = false ∧ host.isLit = true) := by
  cases plain : job.switches with
  | false =>
      exact .inr ⟨rfl, (isLit_of_step stepped plain).symm.trans lit⟩
  | true =>
      cases job with
      | turnHeartbeatOn =>
          exact .inl rfl
      | turnHeartbeatOff =>
          rw [not_lit_of_turnHeartbeatOff stepped] at lit
          cases lit
      | _ =>
          cases plain

/-- Whoever is in charge while the heartbeat is on stays so until it is turned off. -/
theorem beats_of_step
    {phase : Phase}
    (stepped : blueprint.step host job = some turn)
    (plain : job.switches = false)
    (stays : turn.next.phase? = some phase)
    (beats : job.beats = true) :
    turn.next.beats = true := by
  cases job with
  | enterRunning =>
      simp only [step] at stepped
      split at stepped <;>
        cases stepped <;>
          cases stays
  | reportClaim claim =>
      cases claim with
      | won =>
          cases stepped
          rfl
      | _ =>
          cases beats
  | announceShutdown =>
      cases stepped
      rfl
  | turnHeartbeatOff =>
      cases plain
  | _ =>
      cases beats

/-- A start that has the heartbeat before it had it before it already. -/
theorem isUnlit_of_step
    (stepped : blueprint.step host job = some turn)
    (stays : turn.next.phase? = job.phase?)
    (unlit : turn.next.isUnlit = true) :
    job.isUnlit = true := by
  have starts : job.phase? = some .startup :=
    stays.symm.trans (Job.phase?_of_isUnlit unlit)
  cases job with
  | enterRunning =>
      simp only [step] at stepped
      split at stepped <;>
        cases stepped <;>
          cases stays
  | _ =>
      exact decide_eq_true starts

/-- Where the job of a start that is ready comes from. -/
theorem isReady_of_step
    (stepped : blueprint.step host job = some turn)
    (ready : turn.next.isReady = true) :
    (∃ service hasContext, job = .listen service hasContext) ∨
      ∃ service listeners, job = .keep service listeners := by
  cases handling_of_step stepped with
  | idle listening network empty nothing unready own cleared =>
      rw [unready] at ready
      cases ready
  | opens opened network listening next =>
      exact .inl ⟨_, _, rfl⟩
  | keeps network listening next =>
      exact .inr ⟨_, _, rfl⟩
  | takes network listening next =>
      rename_i purpose
      rcases next with ⟨next, -⟩ | ⟨next, -⟩ <;>
        rw [next] at ready
      · cases purpose with
        | none =>
            cases ready
        | some purpose =>
            cases purpose <;> cases ready
      · cases ready
  | fails network listening next | dismisses network listening next
  | ends finished same next =>
      rw [next] at ready
      cases ready

end Blueprint

namespace Scene

variable
  {blueprint : Blueprint σ ρ}
  {scene : Scene σ ρ}

/-- The heartbeat is turned on once, by a start that had it before it. -/
structure LitOnce (scene : Scene σ ρ) : Prop where
  once : (scene.history.filter Deed.lights).length ≤ 1
  fresh :
    scene.host.state = .notStarted →
      scene.history.filter Deed.lights = []
  unlit :
    ∀ errand ∈ scene.errands,
      errand.job.isUnlit = true →
      scene.history.filter Deed.lights = []

/-- Where the heartbeat is turned on, and where it was turned on before. -/
theorem filter_lights_turned
    (scene : Scene σ ρ)
    (actor : Nat)
    (errand : Errand σ)
    (turn : Turn σ ρ) :
    (scene.turned actor errand turn).history.filter Deed.lights =
      scene.history.filter Deed.lights ++
        [{ actor, request := errand.request, job := errand.job,
           before := scene.host, turn : Deed σ ρ }].filter
          Deed.lights := by
  simp [Scene.turned]

/-- A step keeps the heartbeat lit by one start at most. -/
theorem LitOnce.turned
    {actor : Nat}
    {errand : Errand σ}
    {turn : Turn σ ρ}
    (litOnce : LitOnce scene)
    (governed : Governed scene)
    (found : scene.errands[actor]? = some errand)
    (stepped : blueprint.step scene.host errand.job = some turn) :
    LitOnce (scene.turned actor errand turn) := by
  have member := List.mem_of_getElem? found
  have passage := governed.passage found stepped
  have apart
      {place : Nat}
      {other : Errand σ}
      (present : scene.errands[place]? = some other)
      (unlit : other.job.isUnlit = true)
      (different : place ≠ actor) :
      errand.job.phase? = none :=
    governed.idle present (Job.phase?_of_isUnlit unlit) found
      (Ne.symm different)
  have recorded := filter_lights_turned scene actor errand turn
  cases lights :
      Deed.lights
        { actor, request := errand.request, job := errand.job,
          before := scene.host, turn : Deed σ ρ } with
  | true =>
      obtain ⟨dark, lit⟩ :
          scene.host.isLit = false ∧ turn.host.isLit = true := by
        simpa [Deed.lights] using lights
      have on : errand.job = .turnHeartbeatOn := by
        rcases Blueprint.lit_before_or_turnHeartbeatOn stepped lit with
          on | ⟨-, before⟩
        · exact on
        · rw [dark] at before
          cases before
      have starts : errand.job.phase? = some .startup := by
        rw [on]
        rfl
      have none : scene.history.filter Deed.lights = [] :=
        litOnce.unlit errand member (by rw [on]; rfl)
      have starting : scene.host.state = .starting :=
        governed.state_eq found starts
      rw [on] at stepped
      cases stepped
      constructor
      · rw [recorded, none, List.nil_append]
        exact List.length_filter_le _ _
      · intro fresh
        have same : scene.host.state = .notStarted := fresh
        rw [starting] at same
        cases same
      · refine forall_turned passage (fun unlit => nomatch unlit) ?_
          (fun unlit => nomatch unlit)
        intro place other present different unlit
        have idle := apart present unlit different
        rw [starts] at idle
        cases idle
  | false =>
      rw [List.filter_cons_of_neg (by simp [lights]), List.filter_nil,
        List.append_nil] at recorded
      constructor
      · rw [recorded]
        exact litOnce.once
      · intro fresh
        rw [recorded]
        cases passage with
        | stay state phase unreported spawned =>
            exact litOnce.fresh (state.symm.trans fresh)
        | move shift =>
            have moves := shift.moves
            rw [show turn.host.state = .notStarted from fresh] at moves
            exact absurd moves State.not_move_notStarted
      · rw [recorded]
        refine forall_turned passage ?_ ?_ (fun unlit => nomatch unlit)
        · intro unlit
          cases passage with
          | stay state phase unreported spawned =>
              exact litOnce.unlit errand member
                (Blueprint.isUnlit_of_step stepped phase unlit)
          | move shift =>
              obtain ⟨request, job⟩ := errand
              cases shift with
              | start source =>
                  exact litOnce.fresh source
              | _ =>
                  cases unlit
        · intro place other present different unlit
          exact litOnce.unlit other (List.mem_of_getElem? present) unlit

/-- In every reachable scene one start at most lights the heartbeat. -/
theorem Reachable.litOnce
    (reachable : Reachable blueprint scene) :
    LitOnce scene := by
  refine reachable.induct ?_ ?_ ?_ ?_
  · intro surroundings
    exact
      { once := Nat.zero_le 1
        fresh := fun _ => rfl
        unlit := fun _ member => absurd member List.not_mem_nil }
  · intro scene request _ litOnce
    refine { once := litOnce.once, fresh := litOnce.fresh, unlit := ?_ }
    intro errand member unlit
    rcases List.mem_append.mp member with earlier | last
    · exact litOnce.unlit errand earlier unlit
    · rw [List.mem_singleton.mp last] at unlit
      cases request <;> cases unlit
  · intro scene actor errand turn reached found stepped litOnce
    exact litOnce.turned reached.governed found stepped
  · intro scene surroundings litOnce
    exact
      { once := litOnce.once
        fresh := litOnce.fresh
        unlit := litOnce.unlit }

/-- An actor has opened the listeners of the host. -/
def HasOpened
    (blueprint : Blueprint σ ρ)
    (scene : Scene σ ρ)
    (actor : Nat) : Prop :=
  ∃ deed ∈ scene.history, deed.actor = actor ∧ deed.Opens blueprint

/-- Whoever is ready for the heartbeat has opened the listeners, and has a registry. -/
structure Prepared
    (blueprint : Blueprint σ ρ)
    (scene : Scene σ ρ)
    (actor : Nat)
    (errand : Errand σ) : Prop where
  opened :
    errand.job.isReady = true →
      scene.HasOpened blueprint actor
  registers :
    errand.job = .turnHeartbeatOn →
      blueprint.settings.enableRegistry = true

/-- What was opened stays opened, whatever others do. -/
theorem HasOpened.turned
    {actor other : Nat}
    {errand : Errand σ}
    {turn : Turn σ ρ}
    (opened : scene.HasOpened blueprint other) :
    (scene.turned actor errand turn).HasOpened blueprint other := by
  obtain ⟨deed, member, same, opens⟩ := opened
  exact ⟨deed, List.mem_append_left _ member, same, opens⟩

/-- The caller that steps stays prepared for what its next job needs. -/
theorem Prepared.acts
    {actor : Nat}
    {errand : Errand σ}
    {turn : Turn σ ρ}
    (prepared : Prepared blueprint scene actor errand)
    (stepped : blueprint.step scene.host errand.job = some turn) :
    Prepared blueprint (scene.turned actor errand turn) actor
      { errand with job := turn.next } := by
  obtain ⟨request, job⟩ := errand
  constructor
  · intro ready
    rcases Blueprint.isReady_of_step stepped ready with
      ⟨service, hasContext, same⟩ | ⟨service, listeners, same⟩
    · obtain rfl : job = .listen service hasContext := same
      refine ⟨_, List.mem_append_right _ (List.mem_singleton.mpr rfl),
        rfl, ?_⟩
      cases opened :
          (openListeners blueprint.settings hasContext
            scene.host.network).outcome with
      | error failure =>
          simp only [Blueprint.step, opened] at stepped
          cases stepped
          cases ready
      | ok listeners =>
          obtain ⟨sockets, protocols, -⟩ :=
            sockets_of_openListeners_ok opened
          simp only [Blueprint.step, opened] at stepped
          cases stepped
          exact ⟨service, listeners, rfl, protocols, sockets⟩
    · obtain rfl : job = .keep service listeners := same
      exact (prepared.opened rfl).turned
  · intro on
    have ready : turn.next.isReady = true := by
      rw [show turn.next = .turnHeartbeatOn from on]
      rfl
    rcases Blueprint.isReady_of_step stepped ready with
      ⟨service, hasContext, same⟩ | ⟨service, listeners, same⟩
    · obtain rfl : job = .listen service hasContext := same
      simp only [Blueprint.step] at stepped
      cases stepped
      dsimp only at on
      split at on <;> cases on
    · obtain rfl : job = .keep service listeners := same
      simp only [Blueprint.step] at stepped
      cases stepped
      dsimp only at on
      split at on
      · next registers =>
        exact registers
      · cases on

/-- In every reachable scene each job finds what it needs on the host. -/
theorem Reachable.prepared
    (reachable : Reachable blueprint scene) :
    Each (Prepared blueprint) scene := by
  refine reachable.each ?_ ?_ ?_ ?_ ?_ ?_
  · intro scene request _
    cases request <;>
      exact
        { opened := fun ready => nomatch ready
          registers := fun on => nomatch on }
  · intro scene request actor errand prepared
    exact
      { opened := prepared.opened
        registers := prepared.registers }
  · intro scene actor errand turn _ _ stepped prepared
    exact prepared.acts stepped
  · intro scene actor acting turn other errand _ _ _ _ _ prepared
    exact
      { opened := fun ready => (prepared.opened ready).turned
        registers := prepared.registers }
  · intro scene actor acting turn other _ _ _
    exact
      { opened := fun ready => nomatch ready
        registers := fun on => nomatch on }
  · intro scene surroundings actor errand prepared
    exact
      { opened := prepared.opened
        registers := prepared.registers }

/-- Nobody else touches the heartbeat. -/
def LeavesHeartbeat
    (host : Host σ ρ)
    (surroundings : Surroundings ρ) : Prop :=
  surroundings.switches.isOn heartbeat = host.isLit

/-- What is known while the heartbeat is on. -/
structure Tended
    (blueprint : Blueprint σ ρ)
    (scene : Scene σ ρ) : Prop where
  alive :
    scene.host.isLit = true →
      scene.host.state = .starting ∨ scene.host.state = .running ∨
        scene.host.state = .shuttingDown
  registers :
    scene.host.isLit = true →
      blueprint.settings.enableRegistry = true
  jobs :
    scene.host.isLit = true →
      ∀ errand ∈ scene.errands, ∀ phase,
        errand.job.phase? = some phase →
        errand.job.beats = true
  withdraws :
    ∀ deed ∈ scene.history,
      withdrawals deed.turn.journal ≠ [] →
      deed.before.isLit = false

/-- Only whoever withdraws an endpoint calls the registry to withdraw it. -/
theorem beats_of_withdrawals
    {job : Job σ}
    {turn : Turn σ ρ}
    {host : Host σ ρ}
    (writes : blueprint.Writes host job turn)
    (told : withdrawals turn.journal ≠ []) :
    job.beats = false ∧ ∃ phase, job.phase? = some phase := by
  cases job with
  | withdraw purpose withdrawal =>
      exact ⟨rfl, purpose.phase, rfl⟩
  | _ =>
      exact absurd (writes.withdrawn.trans Blueprint.called_nil) told

/-- A step leaves a lit heartbeat tended. -/
theorem Tended.turned
    {actor : Nat}
    {errand : Errand σ}
    {turn : Turn σ ρ}
    (tended : Tended blueprint scene)
    (reachable : Reachable blueprint scene)
    (found : scene.errands[actor]? = some errand)
    (stepped : blueprint.step scene.host errand.job = some turn) :
    Tended blueprint (scene.turned actor errand turn) := by
  have governed := reachable.governed
  have member := List.mem_of_getElem? found
  have inPlace := governed.inPlace member
  have passage := governed.passage found stepped
  have origin (lit : turn.host.isLit = true) :=
    Blueprint.lit_before_or_turnHeartbeatOn stepped lit
  constructor
  · intro lit
    rcases origin lit with on | ⟨plain, before⟩
    · have starts : errand.job.phase? = some .startup := by
        rw [on]
        rfl
      have starting : scene.host.state = .starting :=
        governed.state_eq found starts
      rw [on] at stepped
      cases stepped
      exact .inl starting
    · cases passage with
      | stay state phase unreported spawned =>
          have alive := tended.alive before
          rw [← state] at alive
          exact alive
      | move shift =>
          have alive := tended.alive before
          obtain ⟨request, job⟩ := errand
          cases shift with
          | start source | neverStarted source =>
              simp [source] at alive
          | started source =>
              exact .inr (.inl rfl)
          | shutDown source =>
              exact .inr (.inr rfl)
          | startFailed source =>
              cases tended.jobs before _ member .startup rfl
          | finish source =>
              cases tended.jobs before _ member .shutdown rfl
  · intro lit
    rcases origin lit with on | ⟨plain, before⟩
    · exact (reachable.prepared actor errand found).registers on
    · exact tended.registers before
  · intro lit
    rcases origin lit with on | ⟨plain, before⟩
    · have starts : errand.job.phase? = some .startup := by
        rw [on]
        rfl
      refine forall_turned passage ?_ ?_ ?_
      · intro phase charged
        rw [on] at stepped
        cases stepped
        rfl
      · intro place other present different phase charged
        have idle := governed.idle found starts present different
        rw [charged] at idle
        cases idle
      · intro phase charged
        cases charged
    · refine forall_turned passage ?_ ?_ ?_
      · intro phase charged
        cases passage with
        | stay state same unreported spawned =>
            have beats :=
              tended.jobs before errand member phase
                (same.symm.trans charged)
            exact Blueprint.beats_of_step stepped plain charged beats
        | move shift =>
            have alive := tended.alive before
            obtain ⟨request, job⟩ := errand
            cases shift with
            | start source | neverStarted source =>
                simp [source] at alive
            | shutDown source =>
                rfl
            | _ =>
                cases charged
      · intro place other present different phase charged
        exact tended.jobs before other (List.mem_of_getElem? present)
          phase charged
      · intro phase charged
        cases charged
  · intro deed present told
    rcases List.mem_append.mp present with earlier | last
    · exact tended.withdraws deed earlier told
    · rw [List.mem_singleton.mp last] at told ⊢
      obtain ⟨silent, phase, charged⟩ :=
        beats_of_withdrawals
          (Blueprint.writes_of_step stepped inPlace) told
      cases lit : scene.host.isLit with
      | false =>
          rfl
      | true =>
          have beats := tended.jobs lit errand member phase charged
          rw [silent] at beats
          cases beats

/-- The heartbeat is tended under every schedule that leaves it to the host. -/
theorem tended_run
    {surroundings : Surroundings ρ}
    {schedule : List (Happening ρ)}
    (dark : surroundings.switches.isOn heartbeat = false)
    (abides :
      Abides LeavesHeartbeat blueprint (opening surroundings) schedule) :
    Tended blueprint (run blueprint (opening surroundings) schedule) := by
  have unlit : (opening surroundings : Scene σ ρ).host.isLit = false :=
    dark
  refine abides.preserves ?_ ?_ ?_ ⟨surroundings, [], rfl⟩ ?_
  · intro scene request _ tended
    refine
      { alive := tended.alive
        registers := tended.registers
        jobs := ?_
        withdraws := tended.withdraws }
    intro lit errand member phase charged
    rcases List.mem_append.mp member with earlier | last
    · exact tended.jobs lit errand earlier phase charged
    · rw [List.mem_singleton.mp last] at charged
      cases request <;> cases charged
  · intro scene actor errand turn reached found stepped tended
    exact tended.turned reached found stepped
  · intro scene changed _ leaves tended
    have same :
        (scene.host.within changed).isLit = scene.host.isLit := leaves
    constructor
    · intro lit
      exact tended.alive (same.symm.trans lit)
    · intro lit
      exact tended.registers (same.symm.trans lit)
    · intro lit
      exact tended.jobs (same.symm.trans lit)
    · exact tended.withdraws
  · constructor
    · intro lit
      rw [unlit] at lit
      cases lit
    · intro lit
      rw [unlit] at lit
      cases lit
    · intro lit
      rw [unlit] at lit
      cases lit
    · intro deed member
      exact absurd member List.not_mem_nil

/-- While the heartbeat is on, everything is tracked, and nothing was withdrawn. -/
theorem Tended.opened
    (tended : Tended blueprint scene)
    (reachable : Reachable blueprint scene)
    (lit : scene.host.isLit = true) :
    scene.host.registrar.tracked = blueprint.endpoints ∧
      withdrawals scene.journal = [] := by
  have registers := tended.registers lit
  have charged
      (phase : Phase)
      (held : scene.host.state.phase? = some phase) :
      ∃ errand ∈ scene.errands, errand.job.phase? = some phase := by
    have listed : phase ∈ scene.charges := by
      rw [reachable.governed.charges, held]
      exact List.mem_singleton_self phase
    exact List.mem_filterMap.mp listed
  have kept
      (phase : Phase)
      (held : scene.host.state.phase? = some phase) :
      scene.host.registrar.tracked = blueprint.endpoints ∧
        withdrawals scene.journal = [] := by
    obtain ⟨errand, member, busy⟩ := charged phase held
    have beats := tended.jobs lit errand member phase busy
    exact
      ⟨reachable.published.jobs errand member
          (Job.hasPublished_of_beats beats) registers,
        (Job.opened_of_beats beats
          (reachable.balanced.jobs errand member)).withdrawn⟩
  rcases tended.alive lit with starting | running | closing
  · exact kept .startup (by rw [starting]; rfl)
  · have books := reachable.balanced.state
    rw [running] at books
    exact
      ⟨reachable.published.state running registers,
        books.withdrawn⟩
  · exact kept .shutdown (by rw [closing]; rfl)

/-- The discipline of the heartbeat. -/
structure Beats
    (blueprint : Blueprint σ ρ)
    (scene : Scene σ ρ) : Prop where
  /-- The heart beats only where there is a registry. -/
  registers :
    scene.host.isLit = true →
      blueprint.settings.enableRegistry = true
  /-- It beats for one endpoint of each enabled protocol. -/
  tracked :
    scene.host.isLit = true →
      scene.host.registrar.tracked = blueprint.endpoints ∧
        scene.host.registrar.tracked.map Endpoint.protocol =
          blueprint.settings.enabledProtocols
  /-- None of them was withdrawn. -/
  kept :
    scene.host.isLit = true →
      withdrawals scene.journal = []
  alive :
    scene.host.isLit = true →
      scene.host.state = .starting ∨ scene.host.state = .running ∨
        scene.host.state = .shuttingDown
  /-- It does not beat before a host was started, nor after it has stopped. -/
  still :
    scene.host.state = .notStarted ∨ scene.host.state = .stopped →
      scene.host.isLit = false
  /-- It is turned on at most once. -/
  once : (scene.history.filter Deed.lights).length ≤ 1
  /-- Whoever turns it on has opened the listeners before. -/
  opened :
    ∀ earlier deed later,
      scene.history = earlier ++ deed :: later →
      deed.lights = true →
      ∃ opening ∈ earlier,
        opening.actor = deed.actor ∧ opening.Opens blueprint
  /-- It is off whenever the registry is called to withdraw an endpoint. -/
  withdraws :
    ∀ deed ∈ scene.history,
      withdrawals deed.turn.journal ≠ [] →
      deed.before.isLit = false

/-- Whoever turns the heartbeat on has opened the listeners before. -/
theorem Reachable.opened_of_lights
    (reachable : Reachable blueprint scene)
    {earlier later : List (Deed σ ρ)}
    {deed : Deed σ ρ}
    (shape : scene.history = earlier ++ deed :: later)
    (lights : deed.lights = true) :
    ∃ opening ∈ earlier,
      opening.actor = deed.actor ∧ opening.Opens blueprint := by
  obtain ⟨past, done, rfl⟩ :=
    reachable.chronicled earlier deed later shape
  have lit : deed.before.isLit = false ∧ deed.turn.host.isLit = true := by
    simpa [Deed.lights] using lights
  have stepped := done.stepped
  rw [done.host] at stepped
  have prepared :=
    done.reachable.prepared deed.actor _ done.errand
  rcases Blueprint.lit_before_or_turnHeartbeatOn stepped lit.2 with
    on | ⟨-, before⟩
  · exact prepared.opened (by rw [on]; rfl)
  · rw [lit.1] at before
    cases before

/--
Under every interleaving of starts, stops and shutdowns that leaves the heartbeat
to the host, whatever the plugins, the registry and the network do, the heart beats
in order.
-/
theorem beatsInOrder
    (blueprint : Blueprint σ ρ)
    (surroundings : Surroundings ρ)
    (schedule : List (Happening ρ))
    (dark : surroundings.switches.isOn heartbeat = false)
    (abides :
      Abides LeavesHeartbeat blueprint (opening surroundings) schedule) :
    Beats blueprint
      (run blueprint (opening surroundings) schedule) := by
  have tended := tended_run dark abides
  have reachable :
      Reachable blueprint
        (run blueprint (opening surroundings) schedule) :=
    ⟨surroundings, schedule, rfl⟩
  generalize run blueprint (opening surroundings) schedule = scene
    at tended reachable
  constructor
  case registers => exact tended.registers
  case tracked =>
    intro lit
    have all := (tended.opened reachable lit).1
    refine ⟨all, ?_⟩
    rw [all]
    exact Registrar.protocol_endpointsFor _ _
  case kept =>
    intro lit
    exact (tended.opened reachable lit).2
  case alive => exact tended.alive
  case still =>
    intro outside
    cases lit : scene.host.isLit with
    | false =>
        rfl
    | true =>
        have alive := tended.alive lit
        rcases outside with fresh | stopped
        · simp [fresh] at alive
        · simp [stopped] at alive
  case once => exact reachable.litOnce.once
  case opened =>
    intro earlier deed later shape lights
    exact reachable.opened_of_lights shape lights
  case withdraws => exact tended.withdraws

/-- A host in the clear whose endpoint goes to a registry in memory. -/
def registered : Blueprint Unit Directory where
  settings := { enableRegistry := true, serviceId := "ledger" }
  plugins :=
    (({} : Plugins Unit Directory).provide .answer
      { name := "root"
        handler := some fun _ => .done { status := 200 } }).provide
        .keepEndpoints Directory.registry
  material := .memory []

/-- A start that nobody interferes with turns the heartbeat on in its fifteenth step. -/
theorem beatsInOrder_registered :
    let surroundings : Surroundings Directory :=
      { registry := {}, network := { rules := .standard } }
    let schedule := .call .start :: List.replicate 15 (.turn 0)
    let scene := run registered (opening surroundings) schedule
    surroundings.switches.isOn heartbeat = false ∧
      Abides LeavesHeartbeat registered (opening surroundings) schedule ∧
      scene.host.isLit = true ∧
      Beats registered scene := by
  intro surroundings schedule scene
  have undisturbed (changed : Surroundings Directory) :
      Happening.elsewhere changed ∉ schedule := by
    simp [schedule]
  have abides :
      Abides LeavesHeartbeat registered (opening surroundings) schedule :=
    abides_of_undisturbed undisturbed
  have lit : scene.host.isLit = true := by
    decide +kernel
  exact ⟨rfl, abides, lit,
    beatsInOrder registered surroundings schedule rfl abides⟩

end Scene

end PluggableHost.Lifecycle
