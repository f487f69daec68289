import PluggableHost.Plugin.Hook
import PluggableHost.Proofs.Observability.Reading

/-!
# Hooks are isolated from each other

A startup hook keeps a later one from running by a fatal failure only, and a
shutdown hook never does.  What the two runs come to is told by the outcomes of
the hooks alone, wherever those that fail or break down stand.
-/

namespace PluggableHost.Observability

namespace Entry

/-- The entry tells that a hook runs or how it ended, not what it does meanwhile. -/
def ofHook : Entry → Bool
  | call (.runHook _) => true
  | metric (.hookFailure _) => true
  | event value => value.origin = .hooks
  | _ => false

/-- No other entry tells that a hook runs. -/
theorem ranHook?_of_not_ofHook
    {entry : Entry}
    (other : entry.ofHook = false) :
    entry.ranHook? = none := by
  cases entry with
  | call value =>
      cases value <;> simp_all [ofHook, ranHook?]
  | _ =>
      rfl

/-- No other entry counts a failed hook. -/
theorem metric?_ne_of_not_ofHook
    {entry : Entry}
    (other : entry.ofHook = false)
    (phase : Phase) :
    entry.metric? ≠ some (.hookFailure phase) := by
  rintro counted
  cases entry with
  | metric value =>
      cases counted
      cases other
  | _ =>
      cases counted

end Entry

/-- The entries of hooks hold every call of a hook. -/
theorem ranHooks_filter
    (journal : List Entry) :
    (journal.filter Entry.ofHook).filterMap Entry.ranHook? =
      journal.filterMap Entry.ranHook? := by
  induction journal with
  | nil =>
      rfl
  | cons entry rest inductionHypothesis =>
      cases about : entry.ofHook with
      | true =>
          simp [about, List.filterMap_cons, inductionHypothesis]
      | false =>
          simp [about, inductionHypothesis,
            Entry.ranHook?_of_not_ofHook about]

/-- The entries of hooks hold every failure counted for a phase. -/
theorem hookFailures_filter
    (phase : Phase)
    (journal : List Entry) :
    hookFailures phase (journal.filter Entry.ofHook) =
      hookFailures phase journal := by
  induction journal with
  | nil =>
      rfl
  | cons entry rest inductionHypothesis =>
      rw [← List.singleton_append, List.filter_append,
        hookFailures_append, hookFailures_append, inductionHypothesis]
      congr 1
      cases about : entry.ofHook with
      | true =>
          simp [about]
      | false =>
          have other := Entry.metric?_ne_of_not_ofHook about phase
          cases told : entry.metric? with
          | none =>
              simp [about, hookFailures_eq, told]
          | some metric =>
              have different : metric ≠ .hookFailure phase := by
                rintro rfl
                exact other told
              simp [about, hookFailures_eq, told, different]

end PluggableHost.Observability

namespace PluggableHost.Plugin

open PluggableHost.Observability

namespace Hook

/-- The hook asks for an end of the startup. -/
def IsFatal (hook : Hook) : Prop :=
  ∃ reason, hook.outcome = .fails (.fatal reason)

/-- The journal of a hook's end. -/
def report (hook : Hook) : Phase → List Entry
  | .startup => hook.startupReport
  | .shutdown => hook.shutdownReport

/-- All that a hook leaves in the journal. -/
def trace
    (phase : Phase)
    (hook : Hook) : List Entry :=
  hook.began :: hook.report phase

/-- The hook that reports a failure where this one breaks down. -/
def reporting (hook : Hook) : Hook :=
  match hook.outcome with
  | .breaksDown =>
      { hook with outcome := .fails (.recoverable "hook panicked") }
  | _ => hook

/-- A hook has failed unless it succeeds. -/
theorem hasFailed_eq
    (hook : Hook) :
    hook.hasFailed = decide (hook.outcome ≠ .succeeds) := by
  obtain ⟨name, actions, outcome⟩ := hook
  cases outcome <;>
    rfl

/-- A fatal hook aborts with its reason. -/
theorem abortsWith?_of_fatal
    {hook : Hook}
    {reason : String}
    (fatal : hook.outcome = .fails (.fatal reason)) :
    hook.abortsWith? = some (.fatal reason) := by
  simp [abortsWith?, fatal, HookOutcome.failure?]

/-- Only a fatal hook aborts. -/
theorem abortsWith?_of_not_fatal
    {hook : Hook}
    (mild : ¬hook.IsFatal) :
    hook.abortsWith? = none := by
  obtain ⟨name, actions, outcome⟩ := hook
  cases outcome with
  | succeeds =>
      rfl
  | breaksDown =>
      rfl
  | fails failure =>
      cases failure with
      | recoverable reason =>
          rfl
      | fatal reason =>
          exact absurd ⟨reason, rfl⟩ mild

/-- A breakdown is told in the same words as a failure that startup survives. -/
theorem trace_reporting
    (hook : Hook)
    (phase : Phase) :
    hook.reporting.trace phase = hook.trace phase := by
  obtain ⟨name, actions, outcome⟩ := hook
  cases outcome <;> cases phase <;>
    rfl

/-- A hook that reports aborts as the hook does. -/
theorem abortsWith?_reporting
    (hook : Hook) :
    hook.reporting.abortsWith? = hook.abortsWith? := by
  obtain ⟨name, actions, outcome⟩ := hook
  cases outcome <;>
    rfl

/-- The trace of a hook holds one call, its own. -/
theorem ranHook?_trace
    (phase : Phase)
    (hook : Hook) :
    (hook.trace phase).filterMap Entry.ranHook? = [hook.name] := by
  obtain ⟨name, actions, outcome⟩ := hook
  cases phase <;>
    rcases outcome with _ | ⟨_ | _⟩ | _ <;>
      rfl

/-- A hook that does not succeed is counted once, whichever way it fails. -/
theorem hookFailures_trace
    (counter phase : Phase)
    (hook : Hook) :
    hookFailures counter (hook.trace phase) =
      if counter = phase ∧ hook.outcome ≠ .succeeds then 1 else 0 := by
  obtain ⟨name, actions, outcome⟩ := hook
  rw [hookFailures_eq]
  rcases outcome with _ | ⟨_ | _⟩ | _ <;>
    cases counter <;> cases phase <;>
      rfl

end Hook

/-- How many hooks do not succeed. -/
def failing (hooks : List Hook) : Nat :=
  hooks.countP fun hook => hook.outcome ≠ .succeeds

/-! ## What a journal tells of hooks -/

/-- A journal tells that these hooks ran in a phase, in order, and counts their failures. -/
structure Shows
    (phase : Phase)
    (ran : List Hook)
    (journal : List Entry) : Prop where
  called :
    journal.filterMap Entry.ranHook? = ran.map Hook.name
  counted :
    ∀ (counter : Phase) (earlier : List Entry),
      hookFailures counter (earlier ++ journal) =
        hookFailures counter earlier +
          if counter = phase then failing ran else 0

/-- What hooks leave one after the other shows all of them. -/
theorem shows_flatMap
    (phase : Phase)
    (hooks : List Hook) :
    Shows phase hooks (hooks.flatMap (Hook.trace phase)) where
  called := by
    induction hooks with
    | nil =>
        rfl
    | cons hook rest inductionHypothesis =>
        rw [List.flatMap_cons, List.filterMap_append,
          Hook.ranHook?_trace, inductionHypothesis]
        rfl
  counted := by
    intro counter earlier
    rw [hookFailures_append]
    congr 1
    induction hooks with
    | nil =>
        simp [hookFailures_eq, failing]
    | cons hook rest inductionHypothesis =>
        rw [List.flatMap_cons, hookFailures_append,
          Hook.hookFailures_trace, inductionHypothesis]
        by_cases same : counter = phase
        · by_cases failed : hook.outcome = .succeeds
          · simp [same, failed, failing]
          · simp [same, failed, failing, Nat.add_comm]
        · simp [same]

/-- What a journal shows of hooks is in the entries that are about hooks. -/
theorem Shows.of_filter
    {phase : Phase}
    {ran : List Hook}
    {journal : List Entry}
    (shows : Shows phase ran (journal.filter Entry.ofHook)) :
    Shows phase ran journal where
  called := by
    rw [← ranHooks_filter]
    exact shows.called
  counted := by
    intro counter earlier
    have shown := shows.counted counter earlier
    rw [hookFailures_append, hookFailures_filter] at shown
    rw [hookFailures_append, shown]

/-! ## Startup -/

/-- The hooks that run at startup: all of them, or those up to the first fatal one. -/
structure RunAtStartup
    (hooks ran : List Hook)
    (outcome : Except HookFailure Unit) : Prop where
  whole :
    (∀ hook ∈ hooks, ¬hook.IsFatal) →
      ran = hooks ∧ outcome = .ok ()
  aborted :
    ∀ earlier hook later reason,
      hooks = earlier ++ hook :: later →
      (∀ other ∈ earlier, ¬other.IsFatal) →
      hook.outcome = .fails (.fatal reason) →
        ran = earlier ++ [hook] ∧ outcome = .error (.fatal reason)

/-- Without hooks nothing runs. -/
theorem runAtStartup_nil : RunAtStartup [] [] (.ok ()) where
  whole := fun _ => ⟨rfl, rfl⟩
  aborted := by
    intro earlier hook later reason split
    simp at split

/-- A fatal hook is the last one that runs. -/
theorem runAtStartup_of_fatal
    {hook : Hook}
    {reason : String}
    (rest : List Hook)
    (fatal : hook.outcome = .fails (.fatal reason)) :
    RunAtStartup (hook :: rest) [hook] (.error (.fatal reason)) where
  whole := fun mild =>
    absurd ⟨reason, fatal⟩ (mild hook List.mem_cons_self)
  aborted := by
    intro earlier other later otherReason split mild otherFatal
    cases earlier with
    | nil =>
        obtain ⟨rfl, rfl⟩ := List.cons.inj split
        cases fatal.symm.trans otherFatal
        exact ⟨rfl, rfl⟩
    | cons first others =>
        obtain ⟨rfl, rfl⟩ := List.cons.inj split
        exact absurd ⟨reason, fatal⟩ (mild _ List.mem_cons_self)

/-- Any other hook leaves the run to those that follow. -/
theorem RunAtStartup.cons
    {hook : Hook}
    {rest ran : List Hook}
    {outcome : Except HookFailure Unit}
    (mild : ¬hook.IsFatal)
    (run : RunAtStartup rest ran outcome) :
    RunAtStartup (hook :: rest) (hook :: ran) outcome where
  whole := by
    intro allMild
    obtain ⟨rfl, succeeded⟩ :=
      run.whole fun other member =>
        allMild other (List.mem_cons_of_mem hook member)
    exact ⟨rfl, succeeded⟩
  aborted := by
    intro earlier other later reason split earlierMild fatal
    cases earlier with
    | nil =>
        obtain ⟨rfl, rfl⟩ := List.cons.inj split
        exact absurd ⟨reason, fatal⟩ mild
    | cons first others =>
        obtain ⟨rfl, rfl⟩ := List.cons.inj split
        obtain ⟨rfl, failed⟩ :=
          run.aborted others other later reason rfl
            (fun one member =>
              earlierMild one (List.mem_cons_of_mem _ member))
            fatal
        exact ⟨rfl, failed⟩

/-- A run of startup hooks writes what the hooks that run leave, and nothing else. -/
theorem exists_runAtStartup
    (hooks : List Hook) :
    ∃ ran,
      RunAtStartup hooks ran (runStartupHooks hooks).outcome ∧
      (runStartupHooks hooks).journal = ran.flatMap (Hook.trace .startup) := by
  induction hooks with
  | nil =>
      exact ⟨[], runAtStartup_nil, rfl⟩
  | cons hook rest inductionHypothesis =>
      by_cases fatal : hook.IsFatal
      · obtain ⟨reason, failed⟩ := fatal
        have aborts := Hook.abortsWith?_of_fatal failed
        refine ⟨[hook], ?_, ?_⟩
        · have ended :
              (runStartupHooks (hook :: rest)).outcome =
                .error (.fatal reason) := by
            simp [runStartupHooks, aborts, Recorded.notes_bind,
              Recorded.fail]
          rw [ended]
          exact runAtStartup_of_fatal rest failed
        · simp [runStartupHooks, aborts, Recorded.notes_bind,
            Recorded.fail, Hook.trace, Hook.report]
      · have aborts := Hook.abortsWith?_of_not_fatal fatal
        obtain ⟨ran, run, written⟩ := inductionHypothesis
        refine ⟨hook :: ran, ?_, ?_⟩
        · have left :
              (runStartupHooks (hook :: rest)).outcome =
                (runStartupHooks rest).outcome := by
            simp [runStartupHooks, aborts, Recorded.notes_bind]
          rw [left]
          exact run.cons fatal
        · simp [runStartupHooks, aborts, Recorded.notes_bind, written,
            Hook.trace, Hook.report]

/-- A startup hook that breaks down is one that fails and lets startup go on. -/
theorem runStartupHooks_reporting
    (hooks : List Hook) :
    runStartupHooks (hooks.map Hook.reporting) = runStartupHooks hooks := by
  induction hooks with
  | nil =>
      rfl
  | cons hook rest inductionHypothesis =>
      have same :
          hook.reporting.began :: hook.reporting.startupReport =
            hook.began :: hook.startupReport :=
        hook.trace_reporting .startup
      simp only [List.map_cons, runStartupHooks, inductionHypothesis,
        same, hook.abortsWith?_reporting]

/-! ## Shutdown -/

/-- All shutdown hooks run, and those that do not succeed are counted. -/
theorem runShutdownHooks_eq
    (hooks : List Hook) :
    runShutdownHooks hooks =
      (failing hooks, hooks.flatMap (Hook.trace .shutdown)) := by
  induction hooks with
  | nil =>
      rfl
  | cons hook rest inductionHypothesis =>
      by_cases failed : hook.outcome = .succeeds
      · simp [runShutdownHooks, inductionHypothesis, failing, failed,
          Hook.hasFailed_eq, Hook.trace, Hook.report]
      · simp [runShutdownHooks, inductionHypothesis, failing, failed,
          Hook.hasFailed_eq, Hook.trace, Hook.report, Nat.add_comm]

end PluggableHost.Plugin
