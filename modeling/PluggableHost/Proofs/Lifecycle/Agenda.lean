import PluggableHost.Proofs.Lifecycle.Effects

namespace PluggableHost.Lifecycle

open PluggableHost.Net PluggableHost.Observability PluggableHost.Plugin PluggableHost.Registry

/-!
# The agenda of a shutdown

A shutdown takes its course: the heartbeat goes off, what was published is withdrawn,
the hooks are invoked, the listeners are taken, and the host has stopped.  From the job
that a shutdown has come to it is known what is left of the course, and whatever a step
does for others to see is taken off that.
-/

variable {σ ρ : Type}

/-- The end of a shutdown: it takes the listeners that it finds, and the host has stopped. -/
def Effect.ending (found : Option (List Listener)) : List Effect :=
  (found.map Effect.tookListeners).toList ++ [.stopped]

namespace Blueprint

/-- What a shutdown does once all endpoints have been withdrawn. -/
def closing
    (blueprint : Blueprint σ ρ)
    (found : Option (List Listener)) : List Effect :=
  blueprint.shutdownHooks.map (fun hook => .ranHook hook.name) ++
    Effect.ending found

/--
The course of a shutdown of a host with these endpoints.  The heartbeat goes off if it
was on, and the listeners are taken if nobody has taken them before.
-/
def course
    (blueprint : Blueprint σ ρ)
    (accepted : List Endpoint)
    (lit : Bool)
    (found : Option (List Listener)) : List Effect :=
  (if lit then [.heartbeatOff] else []) ++
    (accepted.map .withdrew ++ blueprint.closing found)

end Blueprint

namespace Job

/-- What is left of the course when a shutdown has come to a job. -/
def agenda
    (blueprint : Blueprint σ ρ)
    (tracked : List Endpoint)
    (lit : Bool)
    (found : Option (List Listener)) : Job σ → List Effect
  | reportClaim .won | announceShutdown | turnHeartbeatOff =>
      blueprint.course tracked lit found
  | withdrawAll .shutdown =>
      tracked.map .withdrew ++ blueprint.closing found
  | withdraw .shutdown (.untrack left) =>
      left.map .withdrew ++ blueprint.closing found
  | withdraw .shutdown (.tell endpoint left) =>
      (endpoint :: left).map .withdrew ++ blueprint.closing found
  | announceCleanUp => blueprint.closing found
  | runHooks .shutdown _ hooks =>
      hooks.map (fun hook => .ranHook hook.name) ++ Effect.ending found
  | runHook .shutdown _ _ _ rest =>
      rest.map (fun hook => .ranHook hook.name) ++ Effect.ending found
  | reportHooks _ | stop (some .shutdown) .take => Effect.ending found
  | stop (some .shutdown) _ | enterStopped => [.stopped]
  | _ => []

/-- Only one step of a shutdown touches the heartbeat. -/
theorem calm_of_shutdown
    {job : Job σ}
    (charged : job.phase? = some .shutdown)
    (other : job ≠ .turnHeartbeatOff) :
    job.switches = false := by
  cases job with
  | turnHeartbeatOff =>
      exact absurd rfl other
  | turnHeartbeatOn =>
      cases charged
  | _ =>
      rfl

/-- A shutdown has nothing accepted. -/
theorem accepting_of_shutdown
    {blueprint : Blueprint σ ρ}
    {registry : ρ}
    {job : Job σ}
    (charged : job.phase? = some .shutdown) :
    job.accepting blueprint registry = [] := by
  cases job with
  | offer endpoints =>
      cases charged
  | _ =>
      rfl

end Job

namespace Blueprint

variable
  {blueprint : Blueprint σ ρ}
  {host : Host σ ρ}
  {turn : Turn σ ρ}
  {ledger : Ledger}

/-- A step of the withdrawal takes the endpoint that it tells of off the agenda. -/
theorem agenda_of_withdrawal
    {withdrawal : Withdrawal}
    (stepped :
      blueprint.withdrawalStep host .shutdown withdrawal = turn)
    (tracked : ledger.tracked = host.registrar.tracked)
    (called : blueprint.client = none → ledger.accepted = [])
    (books :
      (Job.withdraw .shutdown withdrawal : Job σ).Books
        blueprint.endpoints ledger)
    (lit : Bool)
    (found : Option (List Listener)) :
    let job : Job σ := .withdraw .shutdown withdrawal
    job.agenda blueprint host.registrar.tracked lit found =
      (blueprint.called job.telling).map .withdrew ++
        turn.next.agenda blueprint turn.host.registrar.tracked lit
          found := by
  cases withdrawal with
  | untrack endpoints =>
      cases endpoints with
      | nil =>
          cases stepped
          simp [Job.telling, Job.agenda, withdrawalStep,
            Job.afterWithdrawal]
      | cons endpoint rest =>
          have first :
              host.registrar.tracked = endpoint :: rest :=
            tracked.symm.trans books.2
          have value :
              (host.registrar.untrack endpoint).value = true := by
            simp [Registrar.untrack, first]
          simp only [withdrawalStep, value, ↓reduceIte] at stepped
          cases stepped
          simp [Job.telling, Job.agenda]
  | tell endpoint rest =>
      obtain ⟨client, connected⟩ := client_of_tell called books
      simp only [withdrawalStep, connected] at stepped
      cases stepped
      simp [Job.telling, Job.agenda, Blueprint.called, connected]

/-- When the listeners have been taken, nothing but the end is left on the agenda. -/
theorem agenda_of_stopping
    {stopping : Stopping}
    (stepped :
      stoppingStep host (some .shutdown) stopping = some turn)
    (other : stopping ≠ .take)
    (lit : Bool)
    (found : Option (List Listener)) :
    (Job.stop (some .shutdown) stopping : Job σ).agenda blueprint
        host.registrar.tracked lit found =
      turn.next.agenda blueprint turn.host.registrar.tracked lit
        found := by
  cases stopping with
  | take =>
      exact absurd rfl other
  | dismiss listeners =>
      cases stepped
      rfl
  | await listeners =>
      cases listeners with
      | nil =>
          cases stepped
          rfl
      | cons listener rest =>
          simp only [stoppingStep] at stepped
          split at stepped <;> cases stepped
          rfl

end Blueprint

namespace Deed

variable
  {blueprint : Blueprint σ ρ}
  {deed : Deed σ ρ}
  {ledger : Ledger}

/--
What a step of a shutdown does is taken off the agenda.  Two steps are left out: what
they do is known only when they do it.
-/
theorem agenda_of_step
    (stepped : blueprint.step deed.before deed.job = some deed.turn)
    (inPlace : deed.job.InPlace deed.before.state)
    (charged : deed.job.phase? = some .shutdown)
    (same : deed.turn.next.phase? = deed.job.phase?)
    (state : deed.turn.host.state = deed.before.state)
    (calm : deed.job.switches = false)
    (other : ∀ purpose, deed.job ≠ .stop purpose .take)
    (tracked : ledger.tracked = deed.before.registrar.tracked)
    (called : blueprint.client = none → ledger.accepted = [])
    (books : deed.job.Books blueprint.endpoints ledger)
    (lit : Bool)
    (found : Option (List Listener)) :
    deed.job.agenda blueprint deed.before.registrar.tracked lit found =
      deed.effects ++
        deed.turn.next.agenda blueprint
          deed.turn.host.registrar.tracked lit found := by
  rw [effects_of_plain stepped inPlace calm state other]
  obtain ⟨actor, request, job, before, turn⟩ := deed
  dsimp only at stepped inPlace charged same calm other tracked books ⊢
  cases job with
  | reportClaim claim =>
      cases claim with
      | won =>
          cases stepped
          simp [Job.telling, Job.running, Job.agenda, Job.afterClaim]
      | _ =>
          cases charged
  | turnHeartbeatOff =>
      cases calm
  | withdrawAll purpose =>
      cases purpose with
      | rollback failure =>
          cases charged
      | shutdown =>
          cases stepped
          simp [Job.telling, Job.running, Job.agenda]
  | withdraw purpose withdrawal =>
      cases purpose with
      | rollback failure =>
          cases charged
      | shutdown =>
          simp only [Job.running, List.map_nil, List.append_nil]
          exact
            Blueprint.agenda_of_withdrawal (Option.some.inj stepped)
              tracked called books lit found
  | runHooks phase failures hooks =>
      cases charged
      cases hooks with
      | nil =>
          cases stepped
          simp [Job.telling, Job.running, Job.agenda,
            Blueprint.afterHooks]
      | cons hook rest =>
          cases stepped
          simp [Job.telling, Job.running, Job.agenda]
  | runHook phase failures hook actions rest =>
      cases charged
      cases actions with
      | nil =>
          cases stepped
          simp [Job.telling, Job.running, Job.agenda, Blueprint.endHook]
      | cons action others =>
          cases stepped
          cases action with
          | shutdown =>
              simp only [Blueprint.act]
              split <;>
                simp [Job.telling, Job.running, Job.agenda]
          | _ =>
              simp [Job.telling, Job.running, Job.agenda, Blueprint.act]
  | stop purpose stopping =>
      cases purpose with
      | none =>
          cases charged
      | some purpose =>
          cases purpose with
          | rollback failure =>
              cases charged
          | shutdown =>
              simp only [Job.telling, Blueprint.called_nil]
              refine Blueprint.agenda_of_stopping stepped ?_ lit found
              rintro rfl
              exact other _ rfl
  | enterStopped =>
      simp only [Blueprint.step] at stepped
      split at stepped <;>
        cases stepped <;>
          cases same
  | announceShutdown | announceCleanUp | reportHooks failures =>
      cases stepped
      simp [Job.telling, Job.running, Job.agenda, Blueprint.closing]
  | _ =>
      cases charged

/--
Whatever step a shutdown takes, what was done and what is left stay the whole course.
Only when the heartbeat is turned off is it known whether it was on, and only when the
listeners are taken which they are.
-/
theorem course_of_step
    (stepped : blueprint.step deed.before deed.job = some deed.turn)
    (inPlace : deed.job.InPlace deed.before.state)
    (charged : deed.job.phase? = some .shutdown)
    (same : deed.turn.next.phase? = deed.job.phase?)
    (state : deed.turn.host.state = deed.before.state)
    (tracked : ledger.tracked = deed.before.registrar.tracked)
    (called : blueprint.client = none → ledger.accepted = [])
    (books : deed.job.Books blueprint.endpoints ledger)
    {done : List Effect}
    {lit : Bool}
    {found : Option (List Listener)}
    (course :
      done ++
          deed.job.agenda blueprint deed.before.registrar.tracked lit
            found =
        blueprint.course ledger.accepted lit found) :
    ∃ lit found,
      done ++ deed.effects ++
          deed.turn.next.agenda blueprint
            deed.turn.host.registrar.tracked lit found =
        blueprint.course ledger.accepted lit found := by
  by_cases turns : deed.job = .turnHeartbeatOff
  · have effects :=
      effects_of_turnHeartbeatOff stepped inPlace state turns
    have kept := (Blueprint.writes_of_step stepped inPlace).tracked
    rw [turns] at stepped kept books course
    have all : deed.before.registrar.tracked = ledger.accepted :=
      tracked.symm.trans books.tracked
    have nothing : done = [] := by
      rw [all] at course
      exact List.append_left_eq_self.mp course
    have next : deed.turn.next = .withdrawAll .shutdown := by
      rw [← Option.some.inj stepped]
    refine ⟨deed.before.isLit, found, ?_⟩
    rw [effects, nothing, next, kept]
    simp only [Job.agenda, Job.tracking, all, List.nil_append]
    rfl
  by_cases takes : deed.job = .stop (some .shutdown) .take
  · have effects := effects_of_take stepped inPlace state takes
    rw [takes] at stepped course
    have before :
        done =
          (if lit then [.heartbeatOff] else []) ++
            (ledger.accepted.map .withdrew ++
              blueprint.shutdownHooks.map
                fun hook => .ranHook hook.name) := by
      refine (List.append_left_inj (Effect.ending found)).mp ?_
      refine course.trans ?_
      simp [Blueprint.course, Blueprint.closing]
    have last
        (taken : Option (List Listener)) :
        deed.turn.next.agenda blueprint deed.turn.host.registrar.tracked
            lit taken =
          [.stopped] := by
      rw [← Option.some.inj stepped]
      dsimp only
      split <;> rfl
    refine ⟨lit, deed.before.listening.map Listening.listeners, ?_⟩
    rw [effects, last, before]
    simp [Blueprint.course, Blueprint.closing, Effect.ending]
  · have calm := Job.calm_of_shutdown charged turns
    have other (purpose : Option Purpose) :
        deed.job ≠ .stop purpose .take := by
      intro stops
      rw [stops] at charged
      cases purpose with
      | none =>
          cases charged
      | some purpose =>
          cases purpose with
          | rollback failure =>
              cases charged
          | shutdown =>
              exact takes stops
    refine ⟨lit, found, ?_⟩
    rw [List.append_assoc,
      ← agenda_of_step stepped inPlace charged same state calm other
        tracked called books]
    exact course

/-- Before the heartbeat is turned off, nothing is done in a shutdown. -/
theorem effects_of_beats
    (stepped : blueprint.step deed.before deed.job = some deed.turn)
    (inPlace : deed.job.InPlace deed.before.state)
    (charged : deed.job.phase? = some .shutdown)
    (beats : deed.job.beats = true)
    (other : deed.job ≠ .turnHeartbeatOff) :
    deed.effects = [] := by
  have calm := Job.calm_of_shutdown charged other
  obtain ⟨state, silent, hookless, keeps⟩ :
      deed.turn.host.state = deed.before.state ∧
        deed.job.telling = [] ∧
        deed.job.running = [] ∧
        ∀ purpose, deed.job ≠ .stop purpose .take := by
    obtain ⟨actor, request, job, before, turn⟩ := deed
    dsimp only at stepped charged beats other ⊢
    cases job with
    | reportClaim claim =>
        cases claim with
        | won =>
            cases stepped
            exact ⟨rfl, rfl, rfl, nofun⟩
        | _ =>
            cases charged
    | announceShutdown =>
        cases stepped
        exact ⟨rfl, rfl, rfl, nofun⟩
    | turnHeartbeatOff =>
        exact absurd rfl other
    | enterRunning =>
        cases charged
    | _ =>
        cases beats
  rw [effects_of_plain stepped inPlace calm state keeps, silent, hookless,
    Blueprint.called_nil]
  rfl

/-- The actor has done the deed while the host was shutting down. -/
def closes
    (actor : Nat)
    (deed : Deed σ ρ) : Bool :=
  deed.actor == actor && deed.before.state == .shuttingDown

/-- To close is to act while the host shuts down. -/
theorem closes_iff
    {actor : Nat}
    {deed : Deed σ ρ} :
    deed.closes actor = true ↔
      deed.actor = actor ∧ deed.before.state = .shuttingDown := by
  simp [closes]

end Deed

end PluggableHost.Lifecycle
