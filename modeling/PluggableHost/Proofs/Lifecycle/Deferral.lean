import PluggableHost.Proofs.Lifecycle.Standing

namespace PluggableHost.Lifecycle

open PluggableHost.Net PluggableHost.Observability PluggableHost.Plugin

/-!
# No request for a shutdown is lost

A shutdown looks at the state first.  If it finds the host starting, it leaves a
mark and returns, and the start looks for the mark once the host is running.  The
mark may be left before the start looks, and others may shut the host down
meanwhile; a start that fails wipes it out.  Whatever the order, the host is not
running any more when the start has returned.
-/

variable {σ ρ : Type}

namespace Job

/-- The next step of the job is the look at the state that a shutdown begins with. -/
def asks : Job σ → Bool
  | claim | runHook _ _ _ (.shutdown :: _) _ => true
  | _ => false

/-- The next step of the job wipes out the mark of a pending shutdown. -/
def forgets : Job σ → Bool
  | lookForPending | forgetPending _ => true
  | _ => false

/-- The next step of the job hands the listeners to the host. -/
def keeps : Job σ → Bool
  | keep _ _ => true
  | _ => false

/-- The job of a start is on its way to a shutdown. -/
def resumes (pending : Bool) : Job σ → Bool
  | reportRunning | announceStart | lookForPending => pending
  | resumeShutdown | claim => true
  | _ => false

/-- How many steps a start that is on its way to a shutdown has to take. -/
def stepsToShutdown : Job σ → Nat
  | reportRunning => 5
  | announceStart => 4
  | lookForPending => 3
  | resumeShutdown => 2
  | claim => 1
  | _ => 0

end Job

namespace Deed

/-- What a shutdown has found when it looked at the state. -/
def claim? (deed : Deed σ ρ) : Option Claim :=
  if deed.job.asks then some deed.before.claimShutdown.1 else none

end Deed

namespace Blueprint

variable
  {blueprint : Blueprint σ ρ}
  {host : Host σ ρ}
  {job : Job σ}
  {turn : Turn σ ρ}

/-- Whoever asks for a shutdown does nothing else to the host. -/
theorem host_of_asks
    (stepped : blueprint.step host job = some turn)
    (asks : job.asks = true) :
    turn.host = host.claimShutdown.2 := by
  cases job with
  | claim =>
      cases stepped
      rfl
  | runHook phase failures hook actions rest =>
      cases actions with
      | nil =>
          simp [Job.asks] at asks
      | cons action others =>
          cases stepped
          cases action with
          | shutdown =>
              unfold act
              dsimp only
              split <;> rfl
          | _ =>
              simp [Job.asks] at asks
  | _ =>
      simp [Job.asks] at asks

/-- What a step leaves of the mark and of the listeners of the host. -/
structure Leaves
    (host : Host σ ρ)
    (job : Job σ)
    (turn : Turn σ ρ) : Prop where
  pending :
    job.asks = false →
      turn.host.shutdownPending = (host.shutdownPending && !job.forgets)
  listening :
    job.keeps = false →
      host.listening = none →
      turn.host.listening = none

/-- A step that touches neither the mark nor the listeners. -/
theorem leaves_of_same
    (pending : turn.host.shutdownPending = host.shutdownPending)
    (listening : turn.host.listening = host.listening)
    (remembers : job.forgets = false) :
    Leaves host job turn where
  pending := fun _ => by simp [pending, remembers]
  listening := fun _ idle => listening.trans idle

/-- A move leaves a request for a shutdown as it is. -/
theorem leaves_of_advance
    (source target : State)
    (same : turn.host = (host.advance source target).2)
    (remembers : job.forgets = false) :
    Leaves host job turn := by
  refine leaves_of_same ?_ ?_ remembers <;>
    rw [same] <;>
      unfold Host.advance <;>
        split <;> rfl

/-- A request for a shutdown does not undo another. -/
theorem leaves_of_asks
    (stepped : blueprint.step host job = some turn)
    (asks : job.asks = true) :
    Leaves host job turn := by
  refine
    { pending := fun quiet => absurd asks (by simp [quiet])
      listening := fun _ idle => ?_ }
  rw [host_of_asks stepped asks]
  unfold Host.claimShutdown
  split <;> exact idle

/-- Only a shutdown leaves a mark, and only a start hands listeners to the host. -/
theorem leaves_of_step
    (stepped : blueprint.step host job = some turn) :
    Leaves host job turn := by
  cases job with
  | begin =>
      refine leaves_of_advance .notStarted .starting ?_ rfl
      simp only [step] at stepped
      split at stepped <;> cases stepped <;> rfl
  | giveUp failure =>
      refine leaves_of_advance .starting .stopped ?_ rfl
      simp only [step] at stepped
      split at stepped <;> cases stepped <;> rfl
  | enterRunning =>
      refine leaves_of_advance .starting .running ?_ rfl
      simp only [step] at stepped
      split at stepped <;> cases stepped <;> rfl
  | enterStopped =>
      refine leaves_of_advance .shuttingDown .stopped ?_ rfl
      simp only [step] at stepped
      split at stepped <;> cases stepped <;> rfl
  | claim =>
      exact leaves_of_asks stepped rfl
  | lookForPending | forgetPending _ =>
      cases stepped
      exact { pending := by simp [Job.forgets], listening := fun _ idle => idle }
  | keep service listeners =>
      cases stepped
      exact
        { pending := by simp [Job.forgets]
          listening := fun loose => by cases loose }
  | offer endpoints =>
      cases endpoints with
      | nil =>
          cases stepped
          exact leaves_of_same rfl rfl rfl
      | cons endpoint rest =>
          simp only [step] at stepped
          split at stepped <;>
            cases stepped <;>
              exact leaves_of_same rfl rfl rfl
  | runHooks phase failures hooks =>
      cases hooks <;>
        cases stepped <;>
          exact leaves_of_same rfl rfl rfl
  | runHook phase failures hook actions rest =>
      cases actions with
      | nil =>
          cases stepped
          cases phase <;>
            exact leaves_of_same rfl rfl rfl
      | cons action others =>
          cases action with
          | shutdown =>
              exact leaves_of_asks stepped rfl
          | state | endpoints | listeners | heartbeat =>
              cases stepped
              exact leaves_of_same rfl rfl rfl
  | withdraw purpose withdrawal =>
      cases stepped
      unfold withdrawalStep
      split <;>
        try split
      all_goals exact leaves_of_same rfl rfl rfl
  | stop purpose stopping =>
      cases stopping with
      | take =>
          cases stepped
          exact { pending := by simp [Job.forgets], listening := fun _ _ => rfl }
      | dismiss listeners =>
          cases stepped
          exact leaves_of_same rfl rfl rfl
      | await listeners =>
          cases listeners with
          | nil =>
              cases stepped
              exact leaves_of_same rfl rfl rfl
          | cons listener rest =>
              simp only [step, stoppingStep] at stepped
              split at stepped <;> cases stepped
              exact leaves_of_same rfl rfl rfl
  | _ =>
      simp only [step, proceed] at stepped
      (repeat' split at stepped) <;>
        cases stepped <;>
          exact leaves_of_same rfl rfl rfl

/-- A shutdown that finds the host starting leaves a mark and touches nothing else. -/
theorem shutdownPending_of_asks
    (stepped : blueprint.step host job = some turn)
    (asks : job.asks = true)
    (starting : host.state = .starting) :
    turn.host.shutdownPending = true := by
  rw [host_of_asks stepped asks]
  simp [Host.claimShutdown, starting]

/-- A shutdown that finds the host running, or never started, moves it. -/
theorem state_of_asks
    (stepped : blueprint.step host job = some turn)
    (asks : job.asks = true)
    (same : turn.host.state = host.state) :
    host.state ≠ .notStarted ∧ host.state ≠ .running := by
  rw [host_of_asks stepped asks] at same
  constructor <;>
    intro found <;>
      simp [Host.claimShutdown, found] at same

/-- A start that is on its way to a shutdown goes on, as long as the host is running. -/
theorem resumes_of_step
    (stepped : blueprint.step host job = some turn)
    (running : host.state = .running)
    (same : turn.host.state = host.state)
    (resumes : job.resumes host.shutdownPending = true) :
    turn.next.resumes turn.host.shutdownPending = true ∧
      turn.next.stepsToShutdown < job.stepsToShutdown := by
  cases job with
  | reportRunning | announceStart =>
      cases stepped
      exact ⟨resumes, by simp [Job.stepsToShutdown]⟩
  | lookForPending =>
      have pending : host.shutdownPending = true := resumes
      simp only [step, pending, ↓reduceIte] at stepped
      cases stepped
      exact ⟨rfl, by simp [Job.stepsToShutdown]⟩
  | resumeShutdown =>
      cases stepped
      exact ⟨rfl, by simp [Job.stepsToShutdown]⟩
  | claim =>
      exact absurd running (state_of_asks stepped rfl same).2
  | _ =>
      simp [Job.resumes] at resumes

end Blueprint

namespace Scene

variable
  {blueprint : Blueprint σ ρ}
  {scene : Scene σ ρ}

/-- Some shutdown has looked at the state. -/
def Asked (scene : Scene σ ρ) : Prop :=
  ∃ deed ∈ scene.history, deed.claim?.isSome = true

/-- Whoever shuts down a host that is still running, once a shutdown was asked for. -/
def Resuming (scene : Scene σ ρ) : Prop :=
  ∃ actor errand,
    scene.errands[actor]? = some errand ∧
    scene.Started actor ∧
    errand.job.resumes scene.host.shutdownPending = true

/-- What is known of a host that some shutdown has looked at. -/
structure Heeded (scene : Scene σ ρ) : Prop where
  begun : scene.host.state ≠ .notStarted
  marked :
    scene.host.state = .starting →
      scene.host.shutdownPending = true ∨
        ∃ errand ∈ scene.errands, ∃ failure,
          errand.job = .giveUp failure
  resuming : scene.host.state = .running → scene.Resuming

/-- A shutdown was asked for before a step or in it. -/
theorem asked_turned
    {actor : Nat}
    {errand : Errand σ}
    {turn : Turn σ ρ} :
    (scene.turned actor errand turn).Asked ↔
      scene.Asked ∨ errand.job.asks = true := by
  have asks :
      (Deed.claim?
          { actor
            request := errand.request
            job := errand.job
            before := scene.host
            turn }).isSome = true ↔
        errand.job.asks = true := by
    unfold Deed.claim?
    split <;> simp_all
  constructor
  · rintro ⟨deed, member, found⟩
    rcases List.mem_append.mp member with earlier | last
    · exact .inl ⟨deed, earlier, found⟩
    · rw [List.mem_singleton.mp last] at found
      exact .inr (asks.mp found)
  · rintro (⟨deed, member, found⟩ | found)
    · exact ⟨deed, List.mem_append_left _ member, found⟩
    · exact ⟨_, List.mem_append_right _ (List.mem_singleton.mpr rfl),
        asks.mpr found⟩

/-- Who looks for the mark does so after the start, and who wipes it out gives up. -/
theorem Reachable.forgets
    (reachable : Reachable blueprint scene)
    {actor : Nat}
    {errand : Errand σ}
    (found : scene.errands[actor]? = some errand)
    (forgets : errand.job.forgets = true) :
    (errand.job = .lookForPending ∧ scene.host.state ≠ .starting) ∨
      (∃ failure, errand.job = .forgetPending failure) ∧
        scene.host.state = .starting := by
  cases job : errand.job with
  | lookForPending =>
      refine .inl ⟨rfl, ?_⟩
      intro starting
      have ran :=
        (reachable.started_of_settling found
          (by rw [job]; rfl)).2
      have before := reachable.governed.path.rank_le ran
      rw [starting] at before
      exact absurd before (by decide)
  | forgetPending failure =>
      have charged : errand.job.phase? = some .startup := by
        rw [job]; rfl
      exact .inr ⟨⟨failure, rfl⟩,
        reachable.governed.state_eq found charged⟩
  | _ =>
      simp [job, Job.forgets] at forgets

section Step

variable
  {actor : Nat}
  {errand : Errand σ}
  {turn : Turn σ ρ}

/--
A step that leaves the state as it is leaves a shutdown that is on its way.

Where another start finds the mark and forgets it, that start goes on in its place.
-/
theorem Resuming.stay
    (resuming : scene.Resuming)
    (reachable : Reachable blueprint scene)
    (found : scene.errands[actor]? = some errand)
    (stepped : blueprint.step scene.host errand.job = some turn)
    (running : scene.host.state = .running)
    (same : turn.host.state = scene.host.state) :
    (scene.turned actor errand turn).Resuming := by
  obtain ⟨other, present, there, started, resumes⟩ := resuming
  have kept {another : Nat} :
      scene.Started another →
        (scene.turned actor errand turn).Started another :=
    fun passed => started_turned.mpr (.inl passed)
  have quiet : errand.job.asks = false := by
    rw [Bool.eq_false_iff]
    intro asks
    exact (Blueprint.state_of_asks stepped asks same).2 running
  have after := (Blueprint.leaves_of_step stepped).pending quiet
  by_cases mine : other = actor
  · subst mine
    obtain rfl : present = errand := by
      rw [there] at found
      exact Option.some.inj found
    exact ⟨other, _, errand_self found turn, kept started,
      (Blueprint.resumes_of_step stepped running same resumes).1⟩
  · by_cases forgets :
        scene.host.shutdownPending = true ∧ errand.job.forgets = true
    · obtain ⟨pending, forgets⟩ := forgets
      rcases reachable.forgets found forgets with
        ⟨looks, -⟩ | ⟨-, starting⟩
      · have passed :=
          (reachable.started_of_settling found (by rw [looks]; rfl)).1
        refine ⟨actor, _, errand_self found turn, kept passed, ?_⟩
        refine (Blueprint.resumes_of_step stepped running same ?_).1
        rw [looks]
        exact pending
      · rw [running] at starting
        cases starting
    · have unchanged :
          turn.host.shutdownPending = scene.host.shutdownPending := by
        rw [after]
        cases pending : scene.host.shutdownPending with
        | false =>
            rfl
        | true =>
            have keeps : errand.job.forgets = false := by
              rw [Bool.eq_false_iff]
              exact fun wipes => forgets ⟨pending, wipes⟩
            rw [keeps]
            rfl
      refine ⟨other, present, errand_other mine there turn,
        kept started, ?_⟩
      show present.job.resumes turn.host.shutdownPending = true
      rw [unchanged]
      exact resumes

/--
A step that leaves the state as it is.

The mark is wiped out only on the way to the end of the start, and whoever gives up
moves the host.
-/
theorem Heeded.stay
    (heeded : scene.Asked → Heeded scene)
    (reachable : Reachable blueprint scene)
    (found : scene.errands[actor]? = some errand)
    (stepped : blueprint.step scene.host errand.job = some turn)
    (same : turn.host.state = scene.host.state)
    (phase : turn.next.phase? = errand.job.phase?)
    (asked : (scene.turned actor errand turn).Asked) :
    Heeded (scene.turned actor errand turn) := by
  rw [asked_turned] at asked
  by_cases asks : errand.job.asks = true
  · obtain ⟨begun, notRunning⟩ :=
      Blueprint.state_of_asks stepped asks same
    refine
      { begun := fun fresh => begun (same.symm.trans fresh)
        marked := fun starting => .inl ?_
        resuming := fun running =>
          absurd (same.symm.trans running) notRunning }
    exact Blueprint.shutdownPending_of_asks stepped asks
      (same.symm.trans starting)
  · have before := heeded (asked.resolve_right asks)
    refine
      { begun := fun fresh => before.begun (same.symm.trans fresh)
        marked := ?_
        resuming := ?_ }
    · intro starting
      change turn.host.state = .starting at starting
      rw [same] at starting
      rcases before.marked starting with
        pending | ⟨other, member, failure, gives⟩
      · by_cases forgets : errand.job.forgets = true
        · rcases reachable.forgets found forgets with
            ⟨-, notStarting⟩ | ⟨⟨failure, wipes⟩, -⟩
          · exact absurd starting notStarting
          · rw [wipes] at stepped
            cases stepped
            exact .inr ⟨_, List.mem_of_getElem? (errand_self found _),
              failure, rfl⟩
        · refine .inl ?_
          have after :=
            (Blueprint.leaves_of_step stepped).pending
              (Bool.eq_false_iff.mpr asks)
          show turn.host.shutdownPending = true
          rw [after, pending, Bool.eq_false_iff.mpr forgets]
          rfl
      · obtain ⟨place, there⟩ := List.getElem?_of_mem member
        by_cases mine : place = actor
        · subst mine
          obtain rfl : other = errand := by
            rw [there] at found
            exact Option.some.inj found
          rw [gives] at stepped
          simp only [Blueprint.step,
            scene.host.advance_of_eq _ starting] at stepped
          cases stepped
          rw [starting] at same
          cases same
        · exact .inr ⟨other,
            List.mem_of_getElem? (errand_other mine there turn),
            failure, gives⟩
    · intro running
      change turn.host.state = .running at running
      rw [same] at running
      exact (before.resuming running).stay reachable found stepped
        running same

/--
A step that moves the state.

Only one errand is in charge, so no other start is giving up when it does.
-/
theorem Heeded.move
    (heeded : scene.Asked → Heeded scene)
    (reachable : Reachable blueprint scene)
    (found : scene.errands[actor]? = some errand)
    (shift : Shift scene.host errand.job turn)
    (asked : (scene.turned actor errand turn).Asked) :
    Heeded (scene.turned actor errand turn) := by
  have after := errand_self found turn
  rw [asked_turned] at asked
  obtain ⟨request, job⟩ := errand
  cases shift with
  | start source =>
      have before := heeded (asked.resolve_right (by simp [Job.asks]))
      exact absurd source before.begun
  | neverStarted source =>
      exact ⟨nofun, nofun, nofun⟩
  | startFailed source =>
      exact ⟨nofun, nofun, nofun⟩
  | shutDown source =>
      exact ⟨nofun, nofun, nofun⟩
  | finish source =>
      exact ⟨nofun, nofun, nofun⟩
  | started source =>
      have before := heeded (asked.resolve_right (by simp [Job.asks]))
      refine ⟨nofun, nofun, fun _ => ?_⟩
      rcases before.marked source with
        pending | ⟨other, present, failure, gives⟩
      · have standing := reachable.placed found
        cases standing with
        | outside never notRising notSettling =>
            exact absurd rfl notRising
        | rising started =>
            exact ⟨actor, _, after, started_turned.mpr (.inl started),
              pending⟩
        | risen started ran beyond =>
            simp [Job.leg, Job.phase?] at beyond
      · have charged : other.job.phase? = some .startup := by
          rw [gives]
          rfl
        obtain ⟨place, there⟩ := List.getElem?_of_mem present
        have same :=
          reachable.governed.unique found there rfl charged
        rw [same, found] at there
        cases there
        cases gives

end Step

/-- A scene in which a shutdown was asked for is one in which it is heeded. -/
def Heeding (scene : Scene σ ρ) : Prop :=
  scene.Asked → Heeded scene

/-- A request for a shutdown is never forgotten. -/
theorem Reachable.heeding
    (reachable : Reachable blueprint scene) :
    Heeding scene := by
  refine reachable.induct ?_ ?_ ?_ ?_
  · rintro surroundings ⟨deed, member, -⟩
    exact absurd member List.not_mem_nil
  · intro scene request _ heeding asked
    have before := heeding asked
    refine
      { begun := before.begun
        marked := fun starting => ?_
        resuming := fun running => ?_ }
    · rcases before.marked starting with pending | ⟨errand, member, gives⟩
      · exact .inl pending
      · exact .inr ⟨errand, List.mem_append_left _ member, gives⟩
    · obtain ⟨actor, errand, found, started, resumes⟩ :=
        before.resuming running
      have inside : actor < scene.errands.length :=
        (List.getElem?_eq_some_iff.mp found).1
      exact ⟨actor, errand,
        (List.getElem?_append_left inside).trans found, started, resumes⟩
  · intro scene actor errand turn reached found stepped heeding asked
    cases reached.governed.passage found stepped with
    | stay state phase unreported spawned =>
        exact Heeded.stay heeding reached found stepped state phase asked
    | move shift =>
        exact Heeded.move heeding reached found shift asked
  · intro scene surroundings heeding asked
    have before := heeding asked
    exact
      { begun := before.begun
        marked := before.marked
        resuming := before.resuming }

end Scene

end PluggableHost.Lifecycle
