import PluggableHost.Proofs.Lifecycle.AllOrNothing
import PluggableHost.Proofs.Lifecycle.Returning
import PluggableHost.Proofs.Lifecycle.Speaking

namespace PluggableHost.Lifecycle

open PluggableHost.Http PluggableHost.Net PluggableHost.Observability
open PluggableHost.Plugin PluggableHost.Registry

/-!
# No start fails in silence

A start that returns a failure has named what has failed, then told once that the
start has failed, and only then withdrawn anything.  A start that returns without a
failure has complained of nothing, and nobody else ever complains: the complaints of
a host are those of the one start that has passed the guard.
-/

variable
  {σ ρ : Type}

/-- What happens elsewhere leaves the host a machine that tells addresses. -/
def LeavesTelling
    (_ : Host σ ρ)
    (surroundings : Surroundings ρ) : Prop :=
  TellsAddresses surroundings.network.rules

namespace Blueprint

variable
  {blueprint : Blueprint σ ρ}
  {host : Host σ ρ}
  {job : Job σ}
  {turn : Turn σ ρ}

/-- No step changes the rules of the machine. -/
theorem rules_of_step
    (stepped : blueprint.step host job = some turn) :
    turn.host.network.rules = host.network.rules := by
  cases handling_of_step stepped with
  | idle listening network | keeps network | takes network =>
      rw [network]
  | opens opened network | fails network =>
      rw [network, rules_openListeners]
  | dismisses network =>
      rw [network, rules_setStages]
  | ends finished same =>
      rw [same]

/-- Who brings a host up and has not failed is withdrawing nothing. -/
theorem telling_of_rising
    (charged : job.phase? = some .startup)
    (unfailed : job.failure? = none) :
    job.telling = [] := by
  cases job with
  | withdraw purpose withdrawal =>
      cases purpose with
      | rollback failure =>
          cases unfailed
      | shutdown =>
          cases charged
  | _ =>
      rfl

end Blueprint

/-! ## What a start has said -/

/-- A start fails at a step that names what has failed, and at none before. -/
structure Stumbles
    (blueprint : Blueprint σ ρ)
    (failure : HostError)
    (earlier : List (Deed σ ρ))
    (failing : Deed σ ρ) : Prop where
  quiet : ∀ deed ∈ earlier, complaints deed.turn.journal = []
  named :
    blueprint.NamesFailure failing.job failure
      (complaints failing.turn.journal)
  kept :
    ∀ deed ∈ earlier ++ [failing], withdrawals deed.turn.journal = []

/-- A start has failed at a step, has told so, and has had nothing to complain of since. -/
structure Confesses
    (blueprint : Blueprint σ ρ)
    (failure : HostError)
    (deeds earlier : List (Deed σ ρ))
    (failing report : Deed σ ρ)
    (later : List (Deed σ ρ)) : Prop where
  order : deeds = earlier ++ failing :: report :: later
  stumbles : Stumbles blueprint failure earlier failing
  reported : report.turn.journal = [blueprint.startupFailed failure]
  quiet : ∀ deed ∈ later, complaints deed.turn.journal = []

/-- What a start has said, and what it is about to do. -/
inductive Account
    (blueprint : Blueprint σ ρ)
    (deeds : List (Deed σ ρ))
    (job : Job σ) : Prop where
  /-- It has not failed. -/
  | calm
      (quiet : ∀ deed ∈ deeds, complaints deed.turn.journal = [])
      (unfailed : job.failure? = none)
      (kept :
        job.phase? = some .startup →
          ∀ deed ∈ deeds, withdrawals deed.turn.journal = [])
  /-- It has failed, and is about to tell. -/
  | failed
      {failure : HostError}
      {earlier : List (Deed σ ρ)}
      {failing : Deed σ ρ}
      (order : deeds = earlier ++ [failing])
      (stumbles : Stumbles blueprint failure earlier failing)
      (untold : job = .reportFailure failure)
  /-- It has failed, and has told. -/
  | confessed
      {failure : HostError}
      {earlier later : List (Deed σ ρ)}
      {failing report : Deed σ ρ}
      (confesses :
        Confesses blueprint failure deeds earlier failing report later)
      (failed : job.failure? = some failure)
      (told : job.isUntold = false)

/-- What holds of all deeds so far, and of one more. -/
theorem forall_mem_concat
    {holds : Deed σ ρ → Prop}
    {deeds : List (Deed σ ρ)}
    {deed : Deed σ ρ}
    (before : ∀ other ∈ deeds, holds other)
    (last : holds deed) :
    ∀ other ∈ deeds ++ [deed], holds other :=
  List.forall_mem_append.mpr ⟨before, List.forall_mem_singleton.mpr last⟩

/-- Whatever a start does next, what it says goes on from what it has said. -/
theorem Account.next
    {blueprint : Blueprint σ ρ}
    {deeds : List (Deed σ ρ)}
    {deed : Deed σ ρ}
    (account : Account blueprint deeds deed.job)
    (stepped : blueprint.step deed.before deed.job = some deed.turn)
    (speaks : blueprint.Speaks deed.job deed.turn)
    (passage : Passage deed.before deed.job deed.turn)
    (withdrawn :
      withdrawals deed.turn.journal =
        blueprint.called deed.job.telling)
    (begun : deed.job.leg ≠ .atGuard) :
    Account blueprint (deeds ++ [deed]) deed.turn.next := by
  cases account with
  | calm quiet unfailed kept =>
      cases speaks with
      | calm hushed same said =>
          refine .calm (forall_mem_concat quiet hushed)
            ((same.resolve_right begun).trans unfailed) ?_
          intro charged
          have before : deed.job.phase? = some .startup := by
            cases passage with
            | stay state phase unreported spawned =>
                exact phase.symm.trans charged
            | move shift =>
                generalize deed.job = job at shift begun
                generalize deed.turn = turn at shift charged
                cases shift with
                | start source =>
                    exact absurd rfl begun
                | _ =>
                    cases charged
          refine forall_mem_concat (kept before) ?_
          rw [withdrawn, Blueprint.telling_of_rising before unfailed,
            Blueprint.called_nil]
      | names named next =>
          refine .failed rfl ⟨quiet, named, ?_⟩ next
          refine forall_mem_concat (kept named.charged) ?_
          rw [withdrawn, named.telling, Blueprint.called_nil]
      | tells same written next =>
          rw [same] at unfailed
          cases unfailed
  | @failed failure earlier failing order stumbles untold =>
      rw [untold] at stepped
      generalize told : deed.turn = turn at stepped
      cases stepped
      refine .confessed
        { order := by rw [order, List.append_assoc]; rfl
          stumbles
          reported := by rw [told]; rfl
          quiet := fun _ member => absurd member List.not_mem_nil }
        rfl rfl
  | confessed confesses failed told =>
      cases speaks with
      | calm hushed same said =>
          refine .confessed
            { confesses with
              order := by rw [confesses.order, List.append_assoc]; rfl
              quiet := forall_mem_concat confesses.quiet hushed }
            ((same.resolve_right begun).trans failed) said
      | names named next =>
          rw [named.unfailed] at failed
          cases failed
      | tells same written next =>
          rw [same] at told
          cases told

namespace Scene

variable
  {blueprint : Blueprint σ ρ}
  {scene : Scene σ ρ}

/-- Wherever something was done, the machine told addresses. -/
def Told (scene : Scene σ ρ) : Prop :=
  ∀ deed ∈ scene.history, TellsAddresses deed.before.network.rules

/-- The machine tells addresses, and told them wherever something was done. -/
structure Telling (scene : Scene σ ρ) : Prop where
  now : TellsAddresses scene.host.network.rules
  before : scene.Told

/-- A machine that tells addresses at first, and after every change, always does. -/
theorem Abides.telling
    {surroundings : Surroundings ρ}
    {schedule : List (Happening ρ)}
    (tells : TellsAddresses surroundings.network.rules)
    (abides :
      Abides LeavesTelling blueprint (opening surroundings) schedule) :
    Telling (run blueprint (opening surroundings) schedule) := by
  have opened : Telling (opening surroundings : Scene σ ρ) :=
    { now := tells
      before := fun _ member => absurd member List.not_mem_nil }
  refine abides.preserves ?_ ?_ ?_ ⟨surroundings, [], rfl⟩ opened
  · intro scene request _ telling
    exact { now := telling.now, before := telling.before }
  · intro scene actor errand turn _ _ stepped telling
    refine { now := ?_, before := ?_ }
    · show TellsAddresses turn.host.network.rules
      rw [Blueprint.rules_of_step stepped]
      exact telling.now
    · exact forall_mem_concat telling.before telling.now
  · intro scene surroundings _ leaves telling
    exact { now := leaves, before := telling.before }

/-- Whoever does something in charge of a start has passed the guard. -/
theorem Reachable.started_of_mem
    (reachable : Reachable blueprint scene)
    {deed : Deed σ ρ}
    (member : deed ∈ scene.history)
    (charged : deed.job.phase? = some .startup) :
    scene.Started deed.actor := by
  obtain ⟨past, done, within⟩ := reachable.pastWithin member
  have standing := done.reachable.placed done.errand
  rw [show Job.leg _ = Leg.rising from Job.leg_of_startup charged]
    at standing
  have started : past.Started deed.actor := by
    cases standing with
    | outside never notRising notSettling =>
        exact absurd rfl notRising
    | rising started | risen started ran beyond =>
        exact started
  obtain ⟨first, present, mine, passes⟩ := started
  exact ⟨first, within present, mine, passes⟩

/-- A start that has passed the guard is beyond it. -/
theorem Reachable.leg_ne_of_started
    (reachable : Reachable blueprint scene)
    {actor : Nat}
    {errand : Errand σ}
    (found : scene.errands[actor]? = some errand)
    (started : scene.Started actor) :
    errand.job.leg ≠ .atGuard := by
  intro atGuard
  have standing := reachable.placed found
  rw [atGuard] at standing
  cases standing with
  | outside never notRising notSettling =>
      exact never started
  | risen passed ran beyond =>
      exact absurd beyond (by decide)

/-- Every deed speaks for itself. -/
theorem Reachable.speaks
    (reachable : Reachable blueprint scene)
    (calm : KeepsCalm blueprint.material)
    (told : scene.Told)
    {deed : Deed σ ρ}
    (member : deed ∈ scene.history) :
    blueprint.Speaks deed.job deed.turn := by
  obtain ⟨past, done⟩ := reachable.past member
  exact Blueprint.speaks_of_step calm (told deed member)
    (reachable.sound.stepped deed member)
    (done.reachable.equipped _ (List.mem_of_getElem? done.errand))

/--
A start that has passed the guard, which it does by its first step, gives an account of
all that it has done.
-/
theorem Reachable.accounts
    (reachable : Reachable blueprint scene)
    (calm : KeepsCalm blueprint.material) :
    Each
      (fun scene actor errand =>
        scene.Told →
        scene.Started actor →
        Account blueprint (scene.deeds actor) errand.job)
      scene := by
  refine reachable.each ?_ ?_ ?_ ?_ ?_ ?_
  · intro scene request reached _ started
    exact absurd started (not_started reached.sound (Nat.le_refl _))
  · intro scene request actor errand accounts
    exact accounts
  · intro scene actor errand turn reached found stepped accounts told
      started
    have member := List.mem_of_getElem? found
    have before : scene.Told := fun deed earlier =>
      told deed (List.mem_append_left _ earlier)
    have tells : TellsAddresses scene.host.network.rules :=
      told _ (List.mem_append_right _ (List.mem_singleton.mpr rfl))
    rw [deeds_turned, if_pos rfl]
    rcases started_turned.mp started with passed | ⟨-, begins, free⟩
    · exact (accounts before passed).next stepped
        (Blueprint.speaks_of_step calm tells stepped
          (reached.equipped errand member))
        (reached.governed.passage found stepped)
        (Blueprint.writes_of_step stepped
          (reached.governed.inPlace member)).withdrawn
        (reached.leg_ne_of_started found passed)
    · have bounded :
          (scene.deeds actor).length + errand.job.stepsLeft blueprint ≤
            blueprint.mostSteps :=
        reached.bounded actor errand found
      rw [begins] at bounded
      have first : scene.deeds actor = [] := by
        apply List.eq_nil_of_length_eq_zero
        simp only [Job.stepsLeft] at bounded
        omega
      simp only [begins, Blueprint.step,
        scene.host.advance_of_eq _ free] at stepped
      cases stepped
      rw [first]
      refine .calm ?_ rfl fun _ => ?_ <;>
        intro deed only <;>
        rw [List.mem_singleton.mp only] <;>
        rfl
  · intro scene actor acting turn other errand _ _ _ different _
      accounts told started
    rw [deeds_turned, if_neg (Ne.symm different), List.append_nil]
    refine accounts
      (fun deed earlier => told deed (List.mem_append_left _ earlier)) ?_
    exact (started_turned.mp started).resolve_right
      fun passes => different passes.1.symm
  · intro scene actor acting turn other reached inside absent _ started
    rcases started_turned.mp started with passed | ⟨rfl, -⟩
    · exact absurd passed (not_started reached.sound absent)
    · omega
  · intro scene surroundings actor errand accounts
    exact accounts

/-- The complaints of a host are those of the one who ever had something to complain of. -/
theorem complaints_journal
    {actor : Nat}
    (others :
      ∀ deed ∈ scene.history,
        deed.actor ≠ actor → complaints deed.turn.journal = []) :
    complaints scene.journal =
      (scene.deeds actor).flatMap fun deed =>
        complaints deed.turn.journal := by
  simp only [journal, deeds]
  generalize scene.history = history at others ⊢
  induction history with
  | nil =>
      rfl
  | cons deed rest inductionHypothesis =>
      have later := inductionHypothesis fun other member =>
        others other (List.mem_cons_of_mem _ member)
      rw [List.flatMap_cons, complaints_append, later]
      by_cases mine : deed.actor = actor
      · simp [mine]
      · simp [mine, others deed List.mem_cons_self mine]

/-- All that is complained of is what the start that has passed the guard complains of. -/
theorem Reachable.complaints_of_started
    (reachable : Reachable blueprint scene)
    (calm : KeepsCalm blueprint.material)
    (told : scene.Told)
    {actor : Nat}
    (started : scene.Started actor) :
    complaints scene.journal =
      (scene.deeds actor).flatMap fun deed =>
        complaints deed.turn.journal := by
  refine complaints_journal fun deed member different => ?_
  have uncharged : deed.job.phase? ≠ some .startup := fun charged =>
    different (reachable.started_unique
      (reachable.started_of_mem member charged) started)
  cases reachable.speaks calm told member with
  | calm quiet same said =>
      exact quiet
  | names named next =>
      exact absurd named.charged uncharged
  | tells same written next =>
      exact absurd (by rw [same]; rfl) uncharged

/-- Deeds without complaints have none together. -/
theorem flatMap_complaints
    {deeds : List (Deed σ ρ)}
    (quiet : ∀ deed ∈ deeds, complaints deed.turn.journal = []) :
    (deeds.flatMap fun deed => complaints deed.turn.journal) = [] :=
  List.flatMap_eq_nil_iff.mpr quiet

/-- A start that has failed has named what has failed, and has told of it once. -/
theorem Reachable.confesses_of_failed
    (reachable : Reachable blueprint scene)
    (calm : KeepsCalm blueprint.material)
    (told : scene.Told)
    {actor : Nat}
    {errand : Errand σ}
    {failure : HostError}
    (found : scene.errands[actor]? = some errand)
    (started : scene.Started actor)
    (ended : errand.job = .done (.error failure)) :
    ∃ earlier failing report later,
      Confesses blueprint failure (scene.deeds actor)
        earlier failing report later ∧
      complaints scene.journal =
        complaints failing.turn.journal ++
          [blueprint.startupFailed failure] ∧
      scene.journal.count (blueprint.startupFailed failure) = 1 := by
  have account := reachable.accounts calm actor errand found told started
  rw [ended] at account
  cases account with
  | calm quiet unfailed kept =>
      cases unfailed
  | failed order stumbles untold =>
      cases untold
  | @confessed other earlier later failing report confesses failed =>
      cases failed
      have complained :
          complaints scene.journal =
            complaints failing.turn.journal ++
              [blueprint.startupFailed failure] := by
        rw [reachable.complaints_of_started calm told started,
          confesses.order, List.flatMap_append, List.flatMap_cons,
          List.flatMap_cons, flatMap_complaints confesses.stumbles.quiet,
          flatMap_complaints confesses.quiet, confesses.reported]
        rfl
      refine ⟨earlier, failing, report, later, confesses, complained, ?_⟩
      have counted :
          (complaints scene.journal).count
              (blueprint.startupFailed failure) =
            scene.journal.count (blueprint.startupFailed failure) :=
        List.count_filter rfl
      have apart :=
        confesses.stumbles.named.startupFailed_not_mem failure
      rw [← counted, complained, List.count_append,
        List.count_eq_zero.mpr apart, List.count_singleton_self]

/-- A start that has not failed has had nothing to complain of, nor has anyone else. -/
theorem Reachable.complaints_of_ok
    (reachable : Reachable blueprint scene)
    (calm : KeepsCalm blueprint.material)
    (told : scene.Told)
    {actor : Nat}
    {errand : Errand σ}
    (found : scene.errands[actor]? = some errand)
    (started : scene.Started actor)
    (ended : errand.job = .done (.ok ())) :
    complaints scene.journal = [] := by
  have account := reachable.accounts calm actor errand found told started
  rw [ended] at account
  cases account with
  | calm quiet unfailed kept =>
      rw [reachable.complaints_of_started calm told started]
      exact flatMap_complaints quiet
  | failed order stumbles untold =>
      cases untold
  | confessed confesses failed told =>
      cases failed

/-- What a host says of its starts that fail, and of nothing else. -/
structure FailsAloud
    (blueprint : Blueprint σ ρ)
    (scene : Scene σ ρ) : Prop where
  /-- A start of a new host returns no failure exactly when nothing was complained of. -/
  fair :
    ∀ actor errand outcome,
      scene.errands[actor]? = some errand →
      scene.Started actor →
      errand.job = .done outcome →
      (outcome = .ok () ↔ complaints scene.journal = [])
  /-- One that fails has named what has failed, and told of it once before it withdrew anything. -/
  confesses :
    ∀ actor errand failure,
      scene.errands[actor]? = some errand →
      scene.Started actor →
      errand.job = .done (.error failure) →
      ∃ earlier failing report later,
        Confesses blueprint failure (scene.deeds actor)
          earlier failing report later ∧
        complaints scene.journal =
          complaints failing.turn.journal ++
            [blueprint.startupFailed failure] ∧
        scene.journal.count (blueprint.startupFailed failure) = 1
  /-- A hook that does not end a start is not complained of. -/
  hooks :
    ∀ deed ∈ scene.history,
      ∀ phase failures hook rest,
        deed.job = .runHook phase failures hook [] rest →
        (phase = .startup →
          ∀ reason, hook.outcome ≠ .fails (.fatal reason)) →
        complaints deed.turn.journal = []
  /-- A registry that refuses to withdraw an endpoint is not complained of. -/
  withdrawals :
    ∀ deed ∈ scene.history,
      ∀ purpose endpoint rest,
        deed.job = .withdraw purpose (.tell endpoint rest) →
        complaints deed.turn.journal = []
  /-- An errand has so many steps at most, and takes them unless it has to wait for others. -/
  returns :
    blueprint.settings.workerThreads.toNat ≤ mostPermits →
    ∀ actor errand,
      scene.errands[actor]? = some errand →
      (scene.deeds actor).length ≤ blueprint.mostSteps ∧
        (blueprint.step scene.host errand.job = none →
          (∃ outcome, errand.job = .done outcome) ∨
            Blueprint.Awaits scene.host errand.job)

/--
Under every interleaving of starts, stops and shutdowns, whatever the settings, the
plugins, the key material and the machine come to, no start fails in silence.
-/
theorem failsAloud
    (blueprint : Blueprint σ ρ)
    (surroundings : Surroundings ρ)
    (schedule : List (Happening ρ))
    (calm : KeepsCalm blueprint.material)
    (tells : TellsAddresses surroundings.network.rules)
    (abides :
      Abides LeavesTelling blueprint (opening surroundings) schedule) :
    FailsAloud blueprint
      (run blueprint (opening surroundings) schedule) := by
  have told := (abides.telling tells).before
  have reachable :
      Reachable blueprint
        (run blueprint (opening surroundings) schedule) :=
    ⟨surroundings, schedule, rfl⟩
  generalize run blueprint (opening surroundings) schedule = scene
    at told reachable
  constructor
  case fair =>
    intro actor errand outcome found started ended
    cases outcome with
    | ok =>
        exact iff_of_true rfl
          (reachable.complaints_of_ok calm told found started ended)
    | error failure =>
        obtain ⟨earlier, failing, report, later, confessed, complained, -⟩ :=
          reachable.confesses_of_failed calm told found started ended
        rw [complained]
        refine iff_of_false (by simp) ?_
        exact List.append_ne_nil_of_left_ne_nil
          confessed.stumbles.named.ne_nil _
  case confesses =>
    intro actor errand failure
    exact reachable.confesses_of_failed calm told
  case hooks =>
    intro deed member phase failures hook rest ends mild
    cases reachable.speaks calm told member with
    | calm quiet same said =>
        exact quiet
    | names named next =>
        rw [ends] at named
        generalize complaints deed.turn.journal = complained at named ⊢
        cases named with
        | hook fatal =>
            exact absurd fatal (mild rfl _)
    | tells same written next =>
        rw [ends] at same
        cases same
  case withdrawals =>
    intro deed member purpose endpoint rest tells
    cases reachable.speaks calm told member with
    | calm quiet same said =>
        exact quiet
    | names named next =>
        rw [tells] at named
        cases named
    | tells same written next =>
        rw [tells] at same
        cases same
  case returns =>
    intro countable actor errand found
    have bounded :
        (scene.deeds actor).length + errand.job.stepsLeft blueprint ≤
          blueprint.mostSteps :=
      reachable.bounded actor errand found
    refine ⟨by omega, fun halted => ?_⟩
    have whole :=
      reachable.not_broken countable (List.mem_of_getElem? found)
    rcases Blueprint.awaits_of_step_eq_none halted with finished | waits
    · left
      cases ended : errand.job with
      | done outcome =>
          exact ⟨outcome, rfl⟩
      | brokenDown =>
          rw [ended] at whole
          cases whole
      | _ =>
          rw [ended] at finished
          cases finished
    · exact .inr waits

/--
A start whose registry refuses the second endpoint names it and tells of the failure;
the hook that fails before and the endpoint withdrawn after are not complained of.
-/
theorem failsAloud_halfPublished :
    let blueprint :=
      { Blueprint.halfPublished with handlesSignals := false }
    let schedule := .call .start :: List.replicate 20 (.turn 0)
    let scene := run blueprint (opening Blueprint.untouched) schedule
    KeepsCalm blueprint.material ∧
      TellsAddresses Blueprint.untouched.network.rules ∧
      Abides LeavesTelling blueprint (opening Blueprint.untouched)
        schedule ∧
      (scene.errands.map fun errand => errand.job.isOver) = [true] ∧
      (scene.history.filter Deed.passesGuard).length = 1 ∧
      (complaints scene.journal).length = 2 ∧
      (withdrawals scene.journal).length = 1 ∧
      FailsAloud blueprint scene := by
  intro blueprint schedule scene
  have calm : KeepsCalm blueprint.material := keepsCalm_memory []
  have tells : TellsAddresses Blueprint.untouched.network.rules :=
    tellsAddresses_standard
  have abides :
      Abides LeavesTelling blueprint (opening Blueprint.untouched)
        schedule := by
    apply abides_of_undisturbed
    intro surroundings member
    simp [schedule] at member
  refine ⟨calm, tells, abides, ?_, ?_, ?_, ?_,
    failsAloud blueprint Blueprint.untouched schedule calm tells abides⟩ <;>
    decide +kernel

end Scene

end PluggableHost.Lifecycle
