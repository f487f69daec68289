import PluggableHost.Proofs.Lifecycle.Blame
import PluggableHost.Proofs.Lifecycle.Measure
import PluggableHost.Proofs.Plugin.Isolation

namespace PluggableHost.Lifecycle

open PluggableHost.Observability PluggableHost.Plugin

/-!
# The hooks that a host runs

A host takes its hooks step by step, and each of them may do something with the
host.  What it writes of the hooks themselves, and where it goes from them, is
what a run of the hooks alone comes to.
-/

variable {σ ρ : Type}

namespace Blueprint

/-- What a hook does with its host says nothing of how hooks end. -/
theorem ofHook_act
    (host : Host σ ρ)
    (hook : Hook)
    (action : HookAction)
    (next : Job σ) :
    (act host hook action next).journal.filter Entry.ofHook = [] := by
  cases action with
  | shutdown =>
      unfold act
      obtain ⟨claim, claimed⟩ := host.claimShutdown
      cases claim <;>
        rfl
  | _ =>
      rfl

/-- The end of a hook is reported, and all of the report is about the hook. -/
theorem ofHook_endHook
    (host : Host σ ρ)
    (phase : Phase)
    (failures : Nat)
    (hook : Hook)
    (rest : List Hook) :
    (endHook host phase failures hook rest).journal.filter Entry.ofHook =
      hook.report phase := by
  obtain ⟨name, actions, outcome⟩ := hook
  cases phase <;>
    rcases outcome with _ | ⟨_ | _⟩ | _ <;>
      rfl

/-- A hook comes to its end, whatever it does with its host before. -/
theorem leads_actions
    (blueprint : Blueprint σ ρ)
    (host : Host σ ρ)
    (phase : Phase)
    (failures : Nat)
    (hook : Hook)
    (actions : List HookAction)
    (rest : List Hook) :
    ∃ turn : Turn σ ρ,
      blueprint.Leads actions.length host
        (.runHook phase failures hook actions rest) turn ∧
      turn.next = .runHook phase failures hook [] rest ∧
      turn.journal.filter Entry.ofHook = [] := by
  induction actions generalizing host with
  | nil =>
      exact ⟨_, leads_none host _, rfl, rfl⟩
  | cons action others inductionHypothesis =>
      let acted :=
        act host hook action (.runHook phase failures hook others rest)
      have stepped :
          blueprint.step host
              (.runHook phase failures hook (action :: others) rest) =
            some acted := rfl
      obtain ⟨turn, leads, ended, silent⟩ := inductionHypothesis acted.host
      refine ⟨acted.followedBy turn, ?_, ended, ?_⟩
      · have onwards :
            blueprint.Leads others.length acted.host acted.next turn := by
          rw [show acted.next = _ from next_act host hook action _]
          exact leads
        rw [List.length_cons, Nat.add_comm]
        exact (leads_step stepped).trans onwards
      · rw [Turn.journal_followedBy, List.filter_append, silent,
          show acted.journal.filter Entry.ofHook = [] from
            ofHook_act host hook action _]
        rfl

/-- A hook is run, and its end decides what follows. -/
theorem leads_hook
    (blueprint : Blueprint σ ρ)
    (host : Host σ ρ)
    (phase : Phase)
    (failures : Nat)
    (hook : Hook)
    (rest : List Hook) :
    ∃ turn : Turn σ ρ,
      blueprint.Leads (hook.actions.length + 2) host
        (.runHooks phase failures (hook :: rest)) turn ∧
      turn.next = (endHook turn.host phase failures hook rest).next ∧
      turn.journal.filter Entry.ofHook = hook.trace phase := by
  let first : Turn σ ρ :=
    { host
      next := .runHook phase failures hook hook.actions rest
      journal := [hook.began] }
  have began :
      blueprint.step host (.runHooks phase failures (hook :: rest)) =
        some first := rfl
  obtain ⟨turn, leads, ended, silent⟩ :=
    leads_actions blueprint host phase failures hook hook.actions rest
  let last := endHook turn.host phase failures hook rest
  have finished : blueprint.step turn.host turn.next = some last := by
    rw [ended]
    rfl
  have hostKept : last.host = turn.host := by
    cases phase <;>
      rfl
  refine ⟨first.followedBy (turn.followedBy last), ?_, ?_, ?_⟩
  · exact ((leads_step began).trans
      (leads.trans (leads_step finished))).mono (by omega)
  · rw [Turn.next_followedBy, Turn.host_followedBy,
      Turn.next_followedBy, Turn.host_followedBy, hostKept]
  · rw [Turn.journal_followedBy, Turn.journal_followedBy,
      List.filter_append, List.filter_append, silent,
      ofHook_endHook]
    rfl

/-- Where the startup hooks of a host lead. -/
def afterStartup
    (blueprint : Blueprint σ ρ) :
    Except HookFailure Unit → Job σ
  | .ok () => blueprint.afterHooks 0 .startup
  | .error failure => .reportFailure (.hook failure)

/-- A host that starts writes of its hooks, and heeds, what a run of them comes to. -/
theorem leads_startup
    (blueprint : Blueprint σ ρ)
    (host : Host σ ρ)
    (failures : Nat)
    (hooks : List Hook) :
    ∃ turn : Turn σ ρ,
      blueprint.Leads (hookSteps hooks + 1) host
        (.runHooks .startup failures hooks) turn ∧
      turn.next =
        blueprint.afterStartup (runStartupHooks hooks).outcome ∧
      turn.journal.filter Entry.ofHook =
        (runStartupHooks hooks).journal := by
  induction hooks generalizing host failures with
  | nil =>
      exact ⟨_, leads_step rfl, rfl, rfl⟩
  | cons hook rest inductionHypothesis =>
      obtain ⟨first, leads, ended, written⟩ :=
        leads_hook blueprint host .startup failures hook rest
      cases aborts : hook.abortsWith? with
      | some failure =>
          refine ⟨first, leads.mono ?_, ?_, ?_⟩
          · simp only [hookSteps, List.map_cons, List.sum_cons]
            omega
          · rw [ended]
            simp [endHook, aborts, runStartupHooks, afterStartup,
              Recorded.notes_bind, Recorded.fail]
          · rw [written]
            simp [aborts, runStartupHooks, Recorded.notes_bind,
              Recorded.fail, Hook.trace, Hook.report]
      | none =>
          obtain ⟨others, onwards, last, kept⟩ :=
            inductionHypothesis first.host
              (failures + if hook.hasFailed then 1 else 0)
          have next :
              first.next =
                .runHooks .startup
                  (failures + if hook.hasFailed then 1 else 0) rest := by
            rw [ended]
            simp [endHook, aborts]
          rw [← next] at onwards
          refine ⟨first.followedBy others, (leads.trans onwards).mono ?_,
            ?_, ?_⟩
          · simp only [hookSteps, List.map_cons, List.sum_cons]
            omega
          · rw [Turn.next_followedBy, last]
            simp [aborts, runStartupHooks, Recorded.notes_bind]
          · rw [Turn.journal_followedBy, List.filter_append, written,
              kept]
            simp [aborts, runStartupHooks, Recorded.notes_bind,
              Hook.trace, Hook.report]

/-- A host that shuts down writes of its hooks, and counts, what a run of them comes to. -/
theorem leads_shutdown
    (blueprint : Blueprint σ ρ)
    (host : Host σ ρ)
    (failures : Nat)
    (hooks : List Hook) :
    ∃ turn : Turn σ ρ,
      blueprint.Leads (hookSteps hooks + 1) host
        (.runHooks .shutdown failures hooks) turn ∧
      turn.next = .reportHooks (failures + (runShutdownHooks hooks).1) ∧
      turn.journal.filter Entry.ofHook = (runShutdownHooks hooks).2 := by
  induction hooks generalizing host failures with
  | nil =>
      exact ⟨_, leads_step rfl, rfl, rfl⟩
  | cons hook rest inductionHypothesis =>
      obtain ⟨first, leads, next, written⟩ :=
        leads_hook blueprint host .shutdown failures hook rest
      obtain ⟨others, onwards, last, kept⟩ :=
        inductionHypothesis first.host
          (failures + if hook.hasFailed then 1 else 0)
      replace onwards :
          blueprint.Leads (hookSteps rest + 1) first.host first.next
            others := by
        rw [next]
        exact onwards
      refine ⟨first.followedBy others, (leads.trans onwards).mono ?_,
        ?_, ?_⟩
      · simp only [hookSteps, List.map_cons, List.sum_cons]
        omega
      · rw [Turn.next_followedBy, last, Nat.add_assoc]
        rfl
      · rw [Turn.journal_followedBy, List.filter_append, written, kept]
        rfl

end Blueprint

/-- How the hooks of both phases run, wherever those that fail or break down stand. -/
structure HooksIsolated
    (blueprint : Blueprint σ ρ)
    (hooks : List Hook) : Prop where
  /-- Startup runs the hooks up to the first fatal one, and fails with this one only. -/
  startup :
    ∃ ran,
      RunAtStartup hooks ran (runStartupHooks hooks).outcome ∧
      Shows .startup ran (runStartupHooks hooks).journal
  /-- A hook that breaks down is one that fails and lets startup go on. -/
  breakdowns :
    runStartupHooks (hooks.map Hook.reporting) = runStartupHooks hooks
  /-- Shutdown runs all hooks, and counts those that do not succeed. -/
  shutdown :
    (runShutdownHooks hooks).1 = failing hooks ∧
      Shows .shutdown hooks (runShutdownHooks hooks).2
  /-- A starting host goes the same way, whatever its hooks do with it meanwhile. -/
  starting :
    ∀ host : Host σ ρ,
      ∃ turn : Turn σ ρ,
        blueprint.Leads (hookSteps hooks + 1) host
          (.runHooks .startup 0 hooks) turn ∧
        ∃ ran outcome,
          RunAtStartup hooks ran outcome ∧
          Shows .startup ran turn.journal ∧
          turn.next = blueprint.afterStartup outcome
  /-- A stopping host runs all hooks, whatever they do with it meanwhile. -/
  stopping :
    ∀ host : Host σ ρ,
      ∃ turn : Turn σ ρ,
        blueprint.Leads (hookSteps hooks + 1) host
          (.runHooks .shutdown 0 hooks) turn ∧
        Shows .shutdown hooks turn.journal ∧
        turn.next = .reportHooks (failing hooks)

/-- Whatever hooks come to, they are isolated from each other. -/
theorem hooks_isolated
    (blueprint : Blueprint σ ρ)
    (hooks : List Hook) :
    HooksIsolated blueprint hooks := by
  obtain ⟨ran, run, written⟩ := exists_runAtStartup hooks
  have startupShown : Shows .startup ran (runStartupHooks hooks).journal := by
    rw [written]
    exact shows_flatMap .startup ran
  have shutdownShown :
      Shows .shutdown hooks (runShutdownHooks hooks).2 := by
    rw [runShutdownHooks_eq]
    exact shows_flatMap .shutdown hooks
  constructor
  case startup =>
    exact ⟨ran, run, startupShown⟩
  case breakdowns =>
    exact runStartupHooks_reporting hooks
  case shutdown =>
    exact ⟨by rw [runShutdownHooks_eq], shutdownShown⟩
  case starting =>
    intro host
    obtain ⟨turn, leads, next, kept⟩ :=
      blueprint.leads_startup host 0 hooks
    refine ⟨turn, leads, ran, _, run, Shows.of_filter ?_, next⟩
    rw [kept]
    exact startupShown
  case stopping =>
    intro host
    obtain ⟨turn, leads, next, kept⟩ :=
      blueprint.leads_shutdown host 0 hooks
    refine ⟨turn, leads, Shows.of_filter ?_, ?_⟩
    · rw [kept]
      exact shutdownShown
    · rw [next, runShutdownHooks_eq, Nat.zero_add]

end PluggableHost.Lifecycle
