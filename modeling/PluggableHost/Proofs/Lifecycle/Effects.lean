import PluggableHost.Proofs.Lifecycle.Heartbeat

namespace PluggableHost.Lifecycle

open PluggableHost.Net PluggableHost.Observability PluggableHost.Plugin PluggableHost.Registry

/-!
# What a deed does for others to see

The effects of a deed are read off the host before and after it and off the calls
in its journal, whatever the job behind it is called.  What each job does of them is
told once here: one effect at most, and none for most of them.
-/

/-- Something that is done to a host or by it, and that others can see. -/
inductive Effect where
  /-- The heartbeat was on, and is off. -/
  | heartbeatOff
  /-- The registry was told to withdraw an endpoint. -/
  | withdrew (endpoint : Endpoint)
  /-- The hook of this name was invoked. -/
  | ranHook (hook : String)
  /-- The host had listeners in its care, and has none. -/
  | tookListeners (listeners : List Listener)
  /-- The host has come to its last state. -/
  | stopped
  deriving Repr, DecidableEq

namespace Effect

/-- The call of the registry or of a hook that an entry of the journal tells of. -/
def called? : Entry → Option Effect
  | .call (.unregister endpoint) => some (.withdrew endpoint)
  | .call (.runHook hook) => some (.ranHook hook)
  | _ => none

/-- The hook that was invoked. -/
def hook? : Effect → Option String
  | ranHook hook => some hook
  | _ => none

/-- Where no hook is called, all calls are withdrawals. -/
theorem called_of_hookless
    {journal : List Entry}
    (hookless : hooksRun journal = []) :
    journal.filterMap called? = (withdrawals journal).map withdrew := by
  have each
      (entry : Entry)
      (member : entry ∈ journal) :
      called? entry = entry.withdrawn?.map withdrew := by
    have silent := List.filterMap_eq_nil_iff.mp hookless entry member
    cases entry with
    | call call =>
        cases call with
        | runHook hook =>
            cases silent
        | _ =>
            rfl
    | _ =>
        rfl
  rw [List.filterMap_congr each, withdrawals, List.map_filterMap]

/-- Where nothing is withdrawn, all calls are hooks. -/
theorem called_of_kept
    {journal : List Entry}
    (kept : withdrawals journal = []) :
    journal.filterMap called? = (hooksRun journal).map ranHook := by
  have each
      (entry : Entry)
      (member : entry ∈ journal) :
      called? entry = entry.ranHook?.map ranHook := by
    have silent := List.filterMap_eq_nil_iff.mp kept entry member
    cases entry with
    | call call =>
        cases call with
        | unregister endpoint =>
            cases silent
        | _ =>
            rfl
    | _ =>
        rfl
  rw [List.filterMap_congr each, hooksRun, List.map_filterMap]

end Effect

variable {σ ρ : Type}

/-- Whoever moves the state does nothing but that. -/
theorem Shift.quiet
    {host : Host σ ρ}
    {job : Job σ}
    {turn : Turn σ ρ}
    (shift : Shift host job turn) :
    job.switches = false ∧
      job.telling = [] ∧
      job.running = [] ∧
      ∀ purpose, job ≠ .stop purpose .take := by
  cases shift <;>
    exact ⟨rfl, rfl, rfl, nofun⟩

namespace Deed

/-- The listeners that a deed takes out of the care of its host. -/
def taken? (deed : Deed σ ρ) : Option (List Listener) :=
  match deed.before.listening, deed.turn.host.listening with
  | some listening, none => some listening.listeners
  | _, _ => none

/-- All that others can see of a deed. -/
def effects (deed : Deed σ ρ) : List Effect :=
  (if deed.before.isLit && !deed.turn.host.isLit then [.heartbeatOff]
    else []) ++
    (deed.turn.journal.filterMap Effect.called? ++
      ((deed.taken?.map Effect.tookListeners).toList ++
        (if deed.entered? = some .stopped then [.stopped] else [])))

variable
  {blueprint : Blueprint σ ρ}
  {deed : Deed σ ρ}

/-- A deed that leaves the listeners as they are takes none. -/
theorem taken?_of_same
    (same : deed.turn.host.listening = deed.before.listening) :
    deed.taken? = none := by
  unfold taken?
  rw [same]
  cases deed.before.listening <;> rfl

/-- Only the first step of a stop takes the listeners. -/
theorem taken?_eq_none
    (stepped : blueprint.step deed.before deed.job = some deed.turn)
    (other : ∀ purpose, deed.job ≠ .stop purpose .take) :
    deed.taken? = none := by
  obtain ⟨actor, request, job, before, turn⟩ := deed
  have handling : Handling blueprint before job turn :=
    Blueprint.handling_of_step stepped
  cases handling with
  | takes network listening next =>
      exact absurd rfl (other _)
  | keeps network listening next =>
      simp only [taken?, listening]
      cases before.listening <;> rfl
  | ends finished same next =>
      exact taken?_of_same (congrArg Host.listening same)
  | idle listening | opens opened network listening next
  | fails network listening next | dismisses network listening next =>
      exact taken?_of_same listening

/-- The first step of a stop takes all listeners that the host has. -/
theorem taken?_of_take
    {purpose : Option Purpose}
    (stepped : blueprint.step deed.before deed.job = some deed.turn)
    (takes : deed.job = .stop purpose .take) :
    deed.taken? = deed.before.listening.map Listening.listeners := by
  rw [takes] at stepped
  have cleared : deed.turn.host.listening = none := by
    rw [← Option.some.inj stepped]
  rw [taken?, cleared]
  cases deed.before.listening <;> rfl

/-- The calls of a step are those of its job. -/
theorem called_of_step
    (stepped : blueprint.step deed.before deed.job = some deed.turn)
    (inPlace : deed.job.InPlace deed.before.state) :
    deed.turn.journal.filterMap Effect.called? =
      (blueprint.called deed.job.telling).map .withdrew ++
        deed.job.running.map .ranHook := by
  have writes := Blueprint.writes_of_step stepped inPlace
  by_cases hookless : deed.job.running = []
  · rw [Effect.called_of_hookless (writes.ran.trans hookless),
      writes.withdrawn, hookless, List.map_nil, List.append_nil]
  · have silent : deed.job.telling = [] := by
      cases job : deed.job with
      | withdraw purpose withdrawal =>
          rw [job] at hookless
          exact absurd rfl hookless
      | _ =>
          rfl
    have kept : withdrawals deed.turn.journal = [] := by
      rw [writes.withdrawn, silent, Blueprint.called_nil]
    rw [Effect.called_of_kept kept, writes.ran, silent,
      Blueprint.called_nil, List.map_nil, List.nil_append]

/-- A step that leaves the switch and the state alone. -/
theorem effects_of_calm
    (stepped : blueprint.step deed.before deed.job = some deed.turn)
    (inPlace : deed.job.InPlace deed.before.state)
    (calm : deed.job.switches = false)
    (same : deed.turn.host.state = deed.before.state) :
    deed.effects =
      (blueprint.called deed.job.telling).map .withdrew ++
        (deed.job.running.map .ranHook ++
          (deed.taken?.map Effect.tookListeners).toList) := by
  have dark : ¬(deed.before.isLit && !deed.turn.host.isLit) = true := by
    rw [Blueprint.isLit_of_step stepped calm]
    simp
  rw [effects, if_neg dark, called_of_step stepped inPlace,
    entered?_of_same same]
  simp

/-- A step that leaves the switch, the state and the listeners alone. -/
theorem effects_of_plain
    (stepped : blueprint.step deed.before deed.job = some deed.turn)
    (inPlace : deed.job.InPlace deed.before.state)
    (calm : deed.job.switches = false)
    (same : deed.turn.host.state = deed.before.state)
    (other : ∀ purpose, deed.job ≠ .stop purpose .take) :
    deed.effects =
      (blueprint.called deed.job.telling).map .withdrew ++
        deed.job.running.map .ranHook := by
  rw [effects_of_calm stepped inPlace calm same,
    taken?_eq_none stepped other]
  simp

/-- Taking the listeners has no other effect. -/
theorem effects_of_take
    {purpose : Option Purpose}
    (stepped : blueprint.step deed.before deed.job = some deed.turn)
    (inPlace : deed.job.InPlace deed.before.state)
    (same : deed.turn.host.state = deed.before.state)
    (takes : deed.job = .stop purpose .take) :
    deed.effects =
      ((deed.before.listening.map Listening.listeners).map
        Effect.tookListeners).toList := by
  rw [effects_of_calm stepped inPlace (by rw [takes]; rfl) same,
    taken?_of_take stepped takes, takes]
  simp [Job.telling, Job.running]

/-- Turning the heartbeat off has no other effect. -/
theorem effects_of_turnHeartbeatOff
    (stepped : blueprint.step deed.before deed.job = some deed.turn)
    (inPlace : deed.job.InPlace deed.before.state)
    (same : deed.turn.host.state = deed.before.state)
    (turns : deed.job = .turnHeartbeatOff) :
    deed.effects =
      if deed.before.isLit then [.heartbeatOff] else [] := by
  have unlit : deed.turn.host.isLit = false := by
    rw [turns] at stepped
    exact Blueprint.not_lit_of_turnHeartbeatOff stepped
  rw [effects, called_of_step stepped inPlace,
    taken?_eq_none stepped (by simp [turns]), entered?_of_same same,
    unlit, turns]
  simp [Job.telling, Job.running]

/-- A step that moves the state does nothing else that others can see. -/
theorem effects_of_shift
    (stepped : blueprint.step deed.before deed.job = some deed.turn)
    (inPlace : deed.job.InPlace deed.before.state)
    (shift : Shift deed.before deed.job deed.turn) :
    deed.effects =
      if deed.turn.host.state = .stopped then [.stopped] else [] := by
  obtain ⟨calm, silent, hookless, other⟩ := shift.quiet
  have dark : ¬(deed.before.isLit && !deed.turn.host.isLit) = true := by
    rw [Blueprint.isLit_of_step stepped calm]
    simp
  have entered : deed.entered? = some deed.turn.host.state :=
    if_neg shift.moves.ne
  rw [effects, if_neg dark, called_of_step stepped inPlace,
    taken?_eq_none stepped other, entered, silent, hookless]
  simp

/-- Whoever is not in charge does nothing but to take listeners on its own behalf. -/
theorem effects_of_idle
    (stepped : blueprint.step deed.before deed.job = some deed.turn)
    (inPlace : deed.job.InPlace deed.before.state)
    (idle : deed.job.phase? = none)
    (same : deed.turn.host.state = deed.before.state) :
    deed.effects = [] ∨
      deed.job.isOwnStop = true ∧
        ∃ listeners,
          deed.taken? = some listeners ∧
            deed.effects = [.tookListeners listeners] := by
  have quiet :
      deed.job.switches = false ∧
        deed.job.telling = [] ∧
        deed.job.running = [] := by
    cases job : deed.job with
    | turnHeartbeatOn | turnHeartbeatOff | withdraw purpose withdrawal
    | runHooks phase failures hooks =>
        rw [job] at idle
        cases idle
    | _ =>
        exact ⟨rfl, rfl, rfl⟩
  obtain ⟨calm, silent, hookless⟩ := quiet
  have effects := effects_of_calm stepped inPlace calm same
  rw [silent, hookless, Blueprint.called_nil] at effects
  by_cases takes : ∃ purpose, deed.job = .stop purpose .take
  · obtain ⟨purpose, takes⟩ := takes
    have own : deed.job.isOwnStop = true := by
      rw [takes] at idle ⊢
      cases purpose with
      | none =>
          rfl
      | some purpose =>
          cases idle
    rw [effects]
    cases deed.taken? with
    | none =>
        exact .inl rfl
    | some listeners =>
        exact .inr ⟨own, listeners, rfl, rfl⟩
  · rw [taken?_eq_none stepped (not_exists.mp takes)] at effects
    exact .inl effects

/-- The hooks among the effects of a deed are those that its journal tells of. -/
theorem hooks_of_effects
    (deed : Deed σ ρ) :
    deed.effects.filterMap Effect.hook? = hooksRun deed.turn.journal := by
  have calls :
      (deed.turn.journal.filterMap Effect.called?).filterMap
          Effect.hook? =
        hooksRun deed.turn.journal := by
    rw [List.filterMap_filterMap, hooksRun]
    refine List.filterMap_congr fun entry _ => ?_
    cases entry with
    | call call =>
        cases call <;> rfl
    | _ =>
        rfl
  have dark :
      (if deed.before.isLit && !deed.turn.host.isLit then
          [Effect.heartbeatOff]
        else []).filterMap Effect.hook? = [] := by
    split <;> rfl
  have taken :
      (deed.taken?.map Effect.tookListeners).toList.filterMap
          Effect.hook? = [] := by
    cases deed.taken? <;> rfl
  have stopped :
      (if deed.entered? = some .stopped then [Effect.stopped]
        else []).filterMap Effect.hook? = [] := by
    split <;> rfl
  simp only [effects, List.filterMap_append, calls, dark, taken, stopped,
    List.nil_append, List.append_nil]

end Deed

end PluggableHost.Lifecycle
