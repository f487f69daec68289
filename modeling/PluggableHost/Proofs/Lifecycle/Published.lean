import PluggableHost.Proofs.Lifecycle.Bookkeeping
import PluggableHost.Proofs.Lifecycle.Progress

namespace PluggableHost.Lifecycle

open PluggableHost.Net PluggableHost.Observability PluggableHost.Plugin PluggableHost.Registry

/-!
# Everything is published before anything is opened

A start with a registry leaves its publishing behind only when every endpoint is
tracked.  From there on all of them stay tracked, until the first one is withdrawn.
-/

variable {σ ρ : Type}

namespace Job

/-- The job comes after the publishing of the endpoints and before their withdrawal. -/
def hasPublished : Job σ → Bool
  | finishPublishing | assemble | secure _ | compose _ _ | listen _ _
  | keep _ _ | turnHeartbeatOn | enterRunning | brokenDown
  | reportClaim .won | announceShutdown | turnHeartbeatOff
  | withdrawAll .shutdown => true
  | _ => false

/-- A job that has published belongs to a start or to a shutdown. -/
theorem phase?_of_hasPublished
    {job : Job σ}
    (published : job.hasPublished = true) :
    ∃ phase, job.phase? = some phase := by
  cases job with
  | reportClaim claim =>
      cases claim <;>
        simp [hasPublished] at published
      exact ⟨.shutdown, rfl⟩
  | _ =>
      first
        | (simp [hasPublished] at published; done)
        | exact ⟨_, rfl⟩

/-- A job that has published is a plain one. -/
theorem isPlain_of_hasPublished
    {job : Job σ}
    (published : job.hasPublished = true) :
    job.isPlain = true := by
  cases job with
  | offer _ | track _ _ | withdraw _ _ =>
      cases published
  | _ =>
      rfl

end Job

namespace Blueprint

variable
  {blueprint : Blueprint σ ρ}
  {host : Host σ ρ}
  {job : Job σ}
  {turn : Turn σ ρ}

/-- With a registry, the host tracks every endpoint that it is to publish. -/
def TracksAll
    (blueprint : Blueprint σ ρ)
    (host : Host σ ρ) : Prop :=
  blueprint.settings.enableRegistry = true →
    host.registrar.tracked = blueprint.endpoints

/-- Withdrawing leads to nothing that comes before it. -/
theorem not_published_of_withdrawal
    (purpose : Purpose)
    (withdrawal : Withdrawal) :
    ¬ (blueprint.withdrawalStep host purpose withdrawal).next.hasPublished =
      true := by
  cases withdrawal with
  | untrack endpoints =>
      cases endpoints with
      | nil =>
          cases purpose <;>
            exact Bool.false_ne_true
      | cons endpoint rest =>
          exact Bool.false_ne_true
  | tell endpoint rest =>
      unfold withdrawalStep
      dsimp only
      split <;>
        exact Bool.false_ne_true

/-- A stop does not go on to a job that relies on what was published. -/
theorem not_published_of_stopping
    {purpose : Option Purpose}
    {stopping : Stopping}
    (stepped : stoppingStep host purpose stopping = some turn) :
    ¬ turn.next.hasPublished = true := by
  have ended : (Job.afterStop purpose : Job σ).hasPublished = false := by
    cases purpose with
    | none =>
        rfl
    | some purpose =>
        cases purpose <;> rfl
  rw [Bool.not_eq_true]
  cases stopping with
  | take =>
      cases stepped
      dsimp only
      split
      · exact ended
      · rfl
  | dismiss listeners =>
      cases stepped
      rfl
  | await listeners =>
      cases listeners with
      | nil =>
          cases stepped
          exact ended
      | cons listener rest =>
          simp only [stoppingStep] at stepped
          split at stepped <;> cases stepped
          rfl

/-- Where a job after the publishing comes from, while the charge stays. -/
theorem hasPublished_of_step
    {phase : Phase}
    (stepped : blueprint.step host job = some turn)
    (charged : job.phase? = some phase)
    (stays : turn.next.phase? = some phase)
    (published : turn.next.hasPublished = true) :
    job.hasPublished = true ∨ job = .offer [] ∨
      blueprint.settings.enableRegistry = false := by
  cases job with
  | offer endpoints =>
      cases endpoints with
      | nil =>
          exact .inr (.inl rfl)
      | cons endpoint rest =>
          simp only [step] at stepped
          (repeat' split at stepped) <;>
            cases stepped <;>
              simp [Job.hasPublished] at published
  | runHooks phase failures hooks =>
      cases hooks with
      | nil =>
          cases stepped
          cases phase with
          | startup =>
              simp only [afterHooks] at published
              split at published
              · cases published
              · next unregistered =>
                exact .inr (.inr (Bool.not_eq_true _ ▸ unregistered))
          | shutdown =>
              cases published
      | cons hook rest =>
          cases stepped
          cases published
  | runHook phase failures hook actions rest =>
      cases actions with
      | nil =>
          cases stepped
          cases phase with
          | startup =>
              simp only [endHook] at published
              split at published <;>
                cases published
          | shutdown =>
              cases published
      | cons action others =>
          cases stepped
          cases action with
          | shutdown =>
              simp only [act] at published
              split at published <;>
                cases published
          | _ =>
              cases published
  | reportClaim claim =>
      cases claim with
      | won =>
          exact .inl rfl
      | _ =>
          cases charged
  | withdraw purpose withdrawal =>
      cases stepped
      exact absurd published (not_published_of_withdrawal purpose withdrawal)
  | stop purpose stopping =>
      exact absurd published (not_published_of_stopping stepped)
  | _ =>
      first
        | exact .inl rfl
        | (simp only [step] at stepped
           (repeat' split at stepped) <;>
             cases stepped <;>
               first
                 | (cases charged; done)
                 | cases published)

/-- A step that leaves the books as they are leaves the list as it is. -/
theorem tracked_of_plain
    (stepped : blueprint.step host job = some turn)
    (inPlace : job.InPlace host.state)
    (plain : job.isPlain = true) :
    turn.host.registrar.tracked = host.registrar.tracked := by
  let ledger : Ledger := { tracked := host.registrar.tracked }
  have same : ledger.after blueprint host job turn = ledger :=
    after_of_plain stepped inPlace rfl plain
  exact congrArg Ledger.tracked same

end Blueprint

namespace Scene

variable
  {blueprint : Blueprint σ ρ}
  {scene : Scene σ ρ}

/-- Whoever is beyond the publishing finds everything tracked, and so does a host that runs. -/
structure Published
    (blueprint : Blueprint σ ρ)
    (scene : Scene σ ρ) : Prop where
  state :
    scene.host.state = .running →
      blueprint.TracksAll scene.host
  jobs :
    ∀ errand ∈ scene.errands,
      errand.job.hasPublished = true →
      blueprint.TracksAll scene.host

/-- Nobody is in charge of a host that runs. -/
theorem Governed.idle_of_running
    (governed : Governed scene)
    (running : scene.host.state = .running)
    {errand : Errand σ}
    (member : errand ∈ scene.errands) :
    errand.job.phase? = none := by
  cases charged : errand.job.phase? with
  | none =>
      rfl
  | some phase =>
      have held := governed.inPlace member phase charged
      rw [running] at held
      cases held

/-- A step keeps the endpoints of a start that has published them in place. -/
theorem Published.turned
    {actor : Nat}
    {errand : Errand σ}
    {turn : Turn σ ρ}
    (published : Published blueprint scene)
    (reachable : Reachable blueprint scene)
    (found : scene.errands[actor]? = some errand)
    (stepped : blueprint.step scene.host errand.job = some turn) :
    Published blueprint (scene.turned actor errand turn) := by
  have governed := reachable.governed
  have member := List.mem_of_getElem? found
  have inPlace := governed.inPlace member
  have passage := governed.passage found stepped
  have kept
      (same :
        turn.host.registrar.tracked = scene.host.registrar.tracked)
      (before : blueprint.TracksAll scene.host) :
      blueprint.TracksAll turn.host :=
    fun registers => same.trans (before registers)
  have own
      (beyond : turn.next.hasPublished = true) :
      blueprint.TracksAll turn.host := by
    cases passage with
    | move shift =>
        obtain ⟨request, job⟩ := errand
        cases shift with
        | shutDown source =>
            exact published.state source
        | _ =>
            cases beyond
    | stay state phase unreported spawned =>
        obtain ⟨held, charged⟩ := Job.phase?_of_hasPublished beyond
        have before : errand.job.phase? = some held :=
          phase.symm.trans charged
        rcases Blueprint.hasPublished_of_step stepped before charged beyond
          with already | last | unregistered
        · have plain : errand.job.isPlain = true :=
            Job.isPlain_of_hasPublished already
          exact kept (Blueprint.tracked_of_plain stepped inPlace plain)
            (published.jobs errand member already)
        · have books := reachable.balanced.jobs errand member
          rw [last] at books stepped inPlace
          have offered :
              scene.accepted blueprint ++ [] = blueprint.endpoints :=
            books.accepted
          have tracked :
              scene.host.registrar.tracked = scene.accepted blueprint :=
            books.tracked
          rw [List.append_nil] at offered
          exact kept (Blueprint.tracked_of_plain stepped inPlace rfl)
            fun _ => tracked.trans offered
        · intro registers
          rw [unregistered] at registers
          cases registers
  constructor
  · intro runs
    cases passage with
    | move shift =>
        obtain ⟨request, job⟩ := errand
        cases shift with
        | started source =>
            exact published.jobs _ member rfl
        | _ =>
            cases runs
    | stay state phase unreported spawned =>
        have running : scene.host.state = .running :=
          state.symm.trans runs
        have idle := governed.idle_of_running running member
        exact kept (Blueprint.tracked_of_step stepped inPlace idle)
          (published.state running)
  · refine forall_turned passage own ?_ (fun beyond => nomatch beyond)
    intro place present same different beyond
    obtain ⟨held, charged⟩ := Job.phase?_of_hasPublished beyond
    have idle : errand.job.phase? = none :=
      governed.idle same charged found (Ne.symm different)
    exact kept (Blueprint.tracked_of_step stepped inPlace idle)
      (published.jobs present (List.mem_of_getElem? same) beyond)

/-- In every scene whoever is beyond the publishing finds everything tracked. -/
theorem Reachable.published
    (reachable : Reachable blueprint scene) :
    Published blueprint scene := by
  refine reachable.induct ?_ ?_ ?_ ?_
  · intro surroundings
    constructor
    · intro runs
      cases runs
    · intro errand member
      exact absurd member List.not_mem_nil
  · intro scene request _ published
    refine { state := published.state, jobs := ?_ }
    intro errand member beyond
    rcases List.mem_append.mp member with earlier | last
    · exact published.jobs errand earlier beyond
    · rw [List.mem_singleton.mp last] at beyond
      cases request <;> cases beyond
  · intro scene actor errand turn reached found stepped published
    exact published.turned reached found stepped
  · intro scene surroundings published
    exact { state := published.state, jobs := published.jobs }

end Scene

end PluggableHost.Lifecycle
