import PluggableHost.Proofs.Lifecycle.Stages
import PluggableHost.Proofs.Lifecycle.Writings
import PluggableHost.Proofs.Registry.Publication

namespace PluggableHost.Lifecycle

open PluggableHost.Net PluggableHost.Observability PluggableHost.Plugin PluggableHost.Registry

/-!
# The books of a host

What the registry has accepted is tracked, until it is taken off the list and
withdrawn.  Whoever is in charge may have an endpoint in hand that is on neither
side of the books.  Nobody else touches them.
-/

/-- The endpoints that the registry has accepted, that are tracked, and that were withdrawn. -/
structure Ledger where
  accepted : List Endpoint := []
  tracked : List Endpoint := []
  withdrawn : List Endpoint := []

namespace Ledger

/-- Nothing was published. -/
def Fresh (ledger : Ledger) : Prop :=
  ledger = {}

/-- What was accepted is tracked, and nothing was withdrawn. -/
structure Opened
    (ledger : Ledger)
    (endpoints : List Endpoint) : Prop where
  accepted : ledger.accepted <+: endpoints
  tracked : ledger.tracked = ledger.accepted
  withdrawn : ledger.withdrawn = []

/-- What was accepted was withdrawn. -/
structure Closed
    (ledger : Ledger)
    (endpoints : List Endpoint) : Prop where
  accepted : ledger.accepted <+: endpoints
  tracked : ledger.tracked = []
  withdrawn : ledger.withdrawn = ledger.accepted

variable
  {ledger : Ledger}
  {endpoints : List Endpoint}

/-- Books without an entry have all that was accepted on the list. -/
theorem Fresh.opened
    (fresh : ledger.Fresh) :
    ledger.Opened endpoints := by
  rw [fresh]
  exact { accepted := List.nil_prefix, tracked := rfl, withdrawn := rfl }

/-- Books without an entry have withdrawn all that was accepted. -/
theorem Fresh.closed
    (fresh : ledger.Fresh) :
    ledger.Closed endpoints := by
  rw [fresh]
  exact { accepted := List.nil_prefix, tracked := rfl, withdrawn := rfl }

/-- Endpoints are being offered, and these are left. -/
structure Offering
    (ledger : Ledger)
    (endpoints rest : List Endpoint) : Prop where
  accepted : ledger.accepted ++ rest = endpoints
  tracked : ledger.tracked = ledger.accepted
  withdrawn : ledger.withdrawn = []

/-- While endpoints are offered, all that was accepted is on the list. -/
theorem Offering.opened
    {rest : List Endpoint}
    (offering : ledger.Offering endpoints rest) :
    ledger.Opened endpoints where
  accepted := ⟨rest, offering.accepted⟩
  tracked := offering.tracked
  withdrawn := offering.withdrawn

/-- Endpoints are being withdrawn, and these were accepted and are left. -/
structure Withdrawing
    (ledger : Ledger)
    (endpoints left : List Endpoint) : Prop where
  accepted : ledger.accepted <+: endpoints
  withdrawn : ledger.withdrawn ++ left = ledger.accepted

end Ledger

/-- What the books say in a state that nobody is in charge of. -/
def State.Books
    (endpoints : List Endpoint)
    (ledger : Ledger) : State → Prop
  | notStarted => ledger.Fresh
  | running => ledger.Opened endpoints
  | stopped => ledger.Closed endpoints
  | _ => True

variable {σ ρ : Type}

namespace Job

/-- What the books say while somebody is in charge. -/
def Books
    (endpoints : List Endpoint)
    (ledger : Ledger) : Job σ → Prop
  | reportBegun | armSignals | validate | publish
  | runHooks .startup _ _ | runHook .startup _ _ _ _ => ledger.Fresh
  | offer rest => ledger.Offering endpoints rest
  | track endpoint rest =>
      ledger.accepted ++ rest = endpoints ∧
        ledger.accepted = ledger.tracked ++ [endpoint] ∧
        ledger.withdrawn = []
  | withdraw _ (.untrack left) =>
      ledger.Withdrawing endpoints left ∧ ledger.tracked = left
  | withdraw _ (.tell endpoint left) =>
      ledger.Withdrawing endpoints (endpoint :: left) ∧
        ledger.tracked = left
  | forgetPending _ | giveUp _ | stop (some _) _ | announceCleanUp
  | runHooks .shutdown _ _ | runHook .shutdown _ _ _ _ | reportHooks _
  | enterStopped => ledger.Closed endpoints
  | finishPublishing | assemble | secure _ | compose _ _ | listen _ _
  | keep _ _ | turnHeartbeatOn | enterRunning | brokenDown
  | reportFailure _ | withdrawAll _ | reportClaim .won
  | announceShutdown | turnHeartbeatOff => ledger.Opened endpoints
  | _ => True

/-- The endpoint that the registry accepts in the next step. -/
def accepting
    (blueprint : Blueprint σ ρ)
    (registry : ρ) : Job σ → List Endpoint
  | offer (endpoint :: _) =>
      match blueprint.client with
      | none => []
      | some client =>
          match (client.register registry endpoint).1 with
          | .ok () => [endpoint]
          | .error _ => []
  | _ => []

/-- The next step leaves the books as they are. -/
def isPlain : Job σ → Bool
  | offer (_ :: _) | track _ _ | withdraw _ (.untrack (_ :: _))
  | withdraw _ (.tell _ _) => false
  | _ => true

end Job

/-- The books after a step. -/
def Ledger.after
    (ledger : Ledger)
    (blueprint : Blueprint σ ρ)
    (host : Host σ ρ)
    (job : Job σ)
    (turn : Turn σ ρ) : Ledger where
  accepted :=
    ledger.accepted ++ job.accepting blueprint host.registrar.registry
  tracked := turn.host.registrar.tracked
  withdrawn := ledger.withdrawn ++ withdrawals turn.journal

namespace Blueprint

variable
  {blueprint : Blueprint σ ρ}
  {host : Host σ ρ}
  {job : Job σ}
  {turn : Turn σ ρ}
  {ledger : Ledger}

/-- A plain job leaves the books as they are. -/
theorem after_of_plain
    (stepped : blueprint.step host job = some turn)
    (inPlace : job.InPlace host.state)
    (same : ledger.tracked = host.registrar.tracked)
    (plain : job.isPlain = true) :
    ledger.after blueprint host job turn = ledger := by
  have writes := writes_of_step stepped inPlace
  have known :
      job.tracking host.registrar.tracked = host.registrar.tracked ∧
        (job.telling : List Endpoint) = [] ∧
        job.accepting blueprint host.registrar.registry = [] := by
    cases job with
    | offer endpoints =>
        cases endpoints with
        | nil =>
            exact ⟨rfl, rfl, rfl⟩
        | cons endpoint rest =>
            cases plain
    | track endpoint rest =>
        cases plain
    | withdraw purpose withdrawal =>
        cases withdrawal with
        | untrack endpoints =>
            cases endpoints with
            | nil =>
                exact ⟨rfl, rfl, rfl⟩
            | cons endpoint rest =>
                cases plain
        | tell endpoint rest =>
            cases plain
    | _ =>
        exact ⟨rfl, rfl, rfl⟩
  obtain ⟨tracking, telling, accepting⟩ := known
  obtain ⟨accepted, tracked, withdrawn⟩ := ledger
  have kept : turn.host.registrar.tracked = tracked :=
    writes.tracked.trans (tracking.trans same.symm)
  have silent : withdrawals turn.journal = [] := by
    rw [writes.withdrawn, telling, called_nil]
  simp [Ledger.after, accepting, kept, silent]

/-- A step that moves the state hands the books over as they are. -/
theorem books_of_shift
    {endpoints : List Endpoint}
    (shift : Shift host job turn)
    (stands : host.state.Books endpoints ledger)
    (books : job.Books endpoints ledger) :
    turn.next.Books endpoints ledger ∧
      turn.host.state.Books endpoints ledger := by
  cases shift with
  | start source =>
      rw [source] at stands
      exact ⟨stands, trivial⟩
  | neverStarted source =>
      rw [source] at stands
      exact ⟨trivial, Ledger.Fresh.closed stands⟩
  | started source =>
      exact ⟨trivial, books⟩
  | startFailed source =>
      exact ⟨trivial, books⟩
  | shutDown source =>
      rw [source] at stands
      exact ⟨stands, trivial⟩
  | finish source =>
      exact ⟨trivial, books⟩

/-- Stopping listeners leaves the books in order. -/
theorem books_of_stopping
    {endpoints : List Endpoint}
    {purpose : Option Purpose}
    {stopping : Stopping}
    (stepped : stoppingStep host purpose stopping = some turn)
    (books :
      (Job.stop purpose stopping : Job σ).Books endpoints ledger) :
    turn.next.Books endpoints ledger := by
  have ended : (Job.afterStop purpose : Job σ).Books endpoints ledger := by
    cases purpose with
    | none =>
        trivial
    | some purpose =>
        cases purpose <;> exact books
  have again (other : Stopping) :
      (Job.stop purpose other : Job σ).Books endpoints ledger := by
    cases purpose with
    | none =>
        trivial
    | some purpose =>
        exact books
  cases stopping with
  | take =>
      cases stepped
      dsimp only
      split
      · exact ended
      · exact again _
  | dismiss listeners =>
      cases stepped
      exact again _
  | await listeners =>
      cases listeners with
      | nil =>
          cases stepped
          exact ended
      | cons listener rest =>
          simp only [stoppingStep] at stepped
          split at stepped <;> cases stepped
          exact again _

/-- A part that may fail is followed by the next part or by the report of the failure. -/
theorem books_of_proceed
    {α : Type}
    {endpoints : List Endpoint}
    {part : Recorded HostError α}
    {next : α → Job σ}
    (opened : ledger.Opened endpoints)
    (goesOn : ∀ value, (next value).Books endpoints ledger) :
    (proceed host part next).next.Books endpoints ledger := by
  unfold proceed
  split
  · exact opened
  · exact goesOn _

/-- Nothing is asked of the books while nobody is in charge. -/
theorem books_of_idle
    {endpoints : List Endpoint}
    (idle : job.phase? = none) :
    job.Books endpoints ledger := by
  cases job with
  | reportClaim claim =>
      cases claim with
      | won =>
          cases idle
      | _ =>
          trivial
  | stop purpose stopping =>
      cases purpose with
      | none =>
          trivial
      | some purpose =>
          cases idle
  | _ =>
      trivial

/-- A step that leaves the books as they are leads to a job that they fit. -/
theorem books_of_plain
    {phase : Phase}
    (stepped : blueprint.step host job = some turn)
    (charged : job.phase? = some phase)
    (plain : job.isPlain = true)
    (tracked : ledger.tracked = host.registrar.tracked)
    (books : job.Books blueprint.endpoints ledger) :
    turn.next.Books blueprint.endpoints ledger := by
  cases job with
  | enterRunning | giveUp _ | enterStopped =>
      simp only [step] at stepped
      split at stepped <;>
        cases stepped <;>
          trivial
  | reportClaim claim =>
      cases claim with
      | won =>
          cases stepped
          exact books
      | _ =>
          cases charged
  | offer endpoints =>
      cases endpoints with
      | nil =>
          cases stepped
          exact Ledger.Offering.opened books
      | cons endpoint rest =>
          cases plain
  | track endpoint rest =>
      cases plain
  | validate =>
      simp only [step] at stepped
      split at stepped <;> cases stepped
      · exact books
      · exact Ledger.Fresh.opened books
  | publish =>
      simp only [step] at stepped
      split at stepped <;> cases stepped
      · exact Ledger.Fresh.opened books
      · have fresh : ledger = {} := books
        rw [fresh]
        exact { accepted := rfl, tracked := rfl, withdrawn := rfl }
  | assemble =>
      cases stepped
      refine books_of_proceed books fun chain => ?_
      split <;> exact books
  | secure chain =>
      cases stepped
      exact books_of_proceed books fun _ => books
  | runHooks phase failures hooks =>
      cases hooks with
      | nil =>
          cases stepped
          cases phase with
          | startup =>
              simp only [afterHooks]
              split
              · exact books
              · exact Ledger.Fresh.opened books
          | shutdown =>
              exact books
      | cons hook rest =>
          cases stepped
          cases phase <;> exact books
  | runHook phase failures hook actions rest =>
      cases actions with
      | nil =>
          cases stepped
          cases phase with
          | startup =>
              simp only [endHook]
              split
              · exact Ledger.Fresh.opened books
              · exact books
          | shutdown =>
              exact books
      | cons action others =>
          cases stepped
          have goesOn :
              (Job.runHook phase failures hook others rest :
                Job σ).Books blueprint.endpoints ledger := by
            cases phase <;> exact books
          cases action with
          | shutdown =>
              simp only [act]
              split <;> exact goesOn
          | _ =>
              exact goesOn
  | withdrawAll purpose =>
      cases stepped
      refine ⟨{ accepted := books.accepted, withdrawn := ?_ }, tracked⟩
      rw [books.withdrawn, ← tracked, books.tracked]
      rfl
  | withdraw purpose withdrawal =>
      cases withdrawal with
      | untrack endpoints =>
          cases endpoints with
          | nil =>
              cases stepped
              have closed : ledger.Closed blueprint.endpoints :=
                { accepted := books.1.accepted
                  tracked := books.2
                  withdrawn := by simpa using books.1.withdrawn }
              cases purpose <;> exact closed
          | cons endpoint rest =>
              cases plain
      | tell endpoint rest =>
          cases plain
  | stop purpose stopping =>
      exact books_of_stopping stepped books
  | _ =>
      first
        | (cases charged; done)
        | (simp only [step] at stepped
           (repeat' split at stepped) <;>
             cases stepped <;>
               exact books)

/-- An endpoint that the registry has accepted is put on the list next. -/
theorem books_of_offer
    {endpoint : Endpoint}
    {rest : List Endpoint}
    (stepped :
      blueprint.step host (.offer (endpoint :: rest)) = some turn)
    (writes :
      blueprint.Writes host (.offer (endpoint :: rest)) turn)
    (tracked : ledger.tracked = host.registrar.tracked)
    (offering :
      ledger.Offering blueprint.endpoints (endpoint :: rest)) :
    turn.next.Books blueprint.endpoints
      (ledger.after blueprint host (.offer (endpoint :: rest)) turn) := by
  have kept : turn.host.registrar.tracked = ledger.tracked :=
    writes.tracked.trans tracked.symm
  have silent : withdrawals turn.journal = [] :=
    writes.withdrawn.trans called_nil
  cases found : blueprint.client with
  | none =>
      have same :
          ledger.after blueprint host (.offer (endpoint :: rest)) turn =
            ledger := by
        simp [Ledger.after, Job.accepting, found, kept, silent]
      simp only [step, found] at stepped
      rw [same]
      cases stepped
      exact offering.opened
  | some client =>
      simp only [step, found] at stepped
      rcases answered :
          client.register host.registrar.registry endpoint with
        ⟨refusal | accepted, registry⟩
      · have same :
            ledger.after blueprint host (.offer (endpoint :: rest)) turn =
              ledger := by
          simp [Ledger.after, Job.accepting, found, answered, kept, silent]
        have value :
            (host.registrar.offer client endpoint).value =
              .error refusal := by
          simp [Registrar.offer, answered]
        simp only [value] at stepped
        rw [same]
        cases stepped
        exact offering.opened
      · have after :
            ledger.after blueprint host (.offer (endpoint :: rest)) turn =
              { ledger with accepted := ledger.accepted ++ [endpoint] } := by
          simp [Ledger.after, Job.accepting, found, answered, kept, silent]
        have value :
            (host.registrar.offer client endpoint).value = .ok () := by
          simp [Registrar.offer, answered]
        simp only [value] at stepped
        rw [after]
        cases stepped
        refine ⟨?_, ?_, offering.withdrawn⟩
        · rw [List.append_assoc]
          exact offering.accepted
        · rw [offering.tracked]

/-- An endpoint that was accepted is tracked, and the next one is offered. -/
theorem books_of_track
    {endpoint : Endpoint}
    {rest : List Endpoint}
    (stepped : blueprint.step host (.track endpoint rest) = some turn)
    (writes : blueprint.Writes host (.track endpoint rest) turn)
    (tracked : ledger.tracked = host.registrar.tracked)
    (books :
      (Job.track endpoint rest : Job σ).Books blueprint.endpoints
        ledger) :
    turn.next.Books blueprint.endpoints
      (ledger.after blueprint host (.track endpoint rest) turn) := by
  obtain ⟨offered, accepted, withdrawn⟩ := books
  have after :
      ledger.after blueprint host (.track endpoint rest) turn =
        { ledger with tracked := ledger.tracked ++ [endpoint] } := by
    have silent : withdrawals turn.journal = [] :=
      writes.withdrawn.trans called_nil
    have kept :
        turn.host.registrar.tracked = ledger.tracked ++ [endpoint] := by
      rw [writes.tracked, tracked]
      rfl
    simp [Ledger.after, Job.accepting, kept, silent]
  rw [after]
  cases stepped
  exact
    { accepted := offered
      tracked := accepted.symm
      withdrawn := withdrawn }

/-- An endpoint is taken off the list, and the registry is told of it next. -/
theorem books_of_untrack
    {purpose : Purpose}
    {endpoint : Endpoint}
    {rest : List Endpoint}
    (stepped :
      blueprint.step host
        (.withdraw purpose (.untrack (endpoint :: rest))) = some turn)
    (writes :
      blueprint.Writes host
        (.withdraw purpose (.untrack (endpoint :: rest))) turn)
    (tracked : ledger.tracked = host.registrar.tracked)
    (books :
      (Job.withdraw purpose (.untrack (endpoint :: rest)) : Job σ).Books
        blueprint.endpoints ledger) :
    turn.next.Books blueprint.endpoints
      (ledger.after blueprint host
        (.withdraw purpose (.untrack (endpoint :: rest))) turn) := by
  obtain ⟨withdrawing, listed⟩ := books
  have first : host.registrar.tracked = endpoint :: rest :=
    tracked.symm.trans listed
  have after :
      ledger.after blueprint host
          (.withdraw purpose (.untrack (endpoint :: rest))) turn =
        { ledger with tracked := rest } := by
    have silent : withdrawals turn.journal = [] :=
      writes.withdrawn.trans called_nil
    have kept : turn.host.registrar.tracked = rest := by
      rw [writes.tracked, first]
      simp [Job.tracking]
    simp [Ledger.after, Job.accepting, kept, silent]
  have value : (host.registrar.untrack endpoint).value = true := by
    simp [Registrar.untrack, first]
  rw [after]
  simp only [step, withdrawalStep, value, ↓reduceIte] at stepped
  cases stepped
  exact
    ⟨{ accepted := withdrawing.accepted
       withdrawn := withdrawing.withdrawn }, rfl⟩

/-- There is a registry to tell of an endpoint that was accepted. -/
theorem client_of_tell
    {purpose : Purpose}
    {endpoint : Endpoint}
    {rest : List Endpoint}
    (called : blueprint.client = none → ledger.accepted = [])
    (books :
      (Job.withdraw purpose (.tell endpoint rest) : Job σ).Books
        blueprint.endpoints ledger) :
    ∃ client, blueprint.client = some client := by
  cases found : blueprint.client with
  | some client =>
      exact ⟨client, rfl⟩
  | none =>
      have nothing := books.1.withdrawn
      rw [called found] at nothing
      simp at nothing

/-- The registry is told of an endpoint that was taken off the list. -/
theorem books_of_tell
    {purpose : Purpose}
    {endpoint : Endpoint}
    {rest : List Endpoint}
    (stepped :
      blueprint.step host
        (.withdraw purpose (.tell endpoint rest)) = some turn)
    (writes :
      blueprint.Writes host
        (.withdraw purpose (.tell endpoint rest)) turn)
    (tracked : ledger.tracked = host.registrar.tracked)
    (called : blueprint.client = none → ledger.accepted = [])
    (books :
      (Job.withdraw purpose (.tell endpoint rest) : Job σ).Books
        blueprint.endpoints ledger) :
    turn.next.Books blueprint.endpoints
      (ledger.after blueprint host
        (.withdraw purpose (.tell endpoint rest)) turn) := by
  obtain ⟨client, found⟩ := client_of_tell called books
  obtain ⟨withdrawing, listed⟩ := books
  have told : withdrawals turn.journal = [endpoint] := by
    rw [writes.withdrawn]
    simp [Blueprint.called, found, Job.telling]
  have kept : turn.host.registrar.tracked = rest :=
    writes.tracked.trans (tracked.symm.trans listed)
  have after :
      ledger.after blueprint host
          (.withdraw purpose (.tell endpoint rest)) turn =
        { accepted := ledger.accepted
          tracked := rest
          withdrawn := ledger.withdrawn ++ [endpoint] } := by
    simp [Ledger.after, Job.accepting, kept, told]
  rw [after]
  simp only [step, withdrawalStep, found] at stepped
  cases stepped
  refine ⟨{ accepted := withdrawing.accepted, withdrawn := ?_ }, rfl⟩
  rw [List.append_assoc]
  exact withdrawing.withdrawn

/-- Whoever is in charge leaves the books to the next job as it expects them. -/
theorem books_of_step
    {phase : Phase}
    (stepped : blueprint.step host job = some turn)
    (inPlace : job.InPlace host.state)
    (charged : job.phase? = some phase)
    (tracked : ledger.tracked = host.registrar.tracked)
    (called : blueprint.client = none → ledger.accepted = [])
    (books : job.Books blueprint.endpoints ledger) :
    turn.next.Books blueprint.endpoints
      (ledger.after blueprint host job turn) := by
  have writes := writes_of_step stepped inPlace
  by_cases plain : job.isPlain = true
  · rw [after_of_plain stepped inPlace tracked plain]
    exact books_of_plain stepped charged plain tracked books
  · cases job with
    | offer endpoints =>
        cases endpoints with
        | nil =>
            exact absurd rfl plain
        | cons endpoint rest =>
            exact books_of_offer stepped writes tracked books
    | track endpoint rest =>
        exact books_of_track stepped writes tracked books
    | withdraw purpose withdrawal =>
        cases withdrawal with
        | untrack endpoints =>
            cases endpoints with
            | nil =>
                exact absurd rfl plain
            | cons endpoint rest =>
                exact books_of_untrack stepped writes tracked books
        | tell endpoint rest =>
            exact books_of_tell stepped writes tracked called books
    | _ =>
        exact absurd rfl plain

end Blueprint

namespace Scene

variable
  {blueprint : Blueprint σ ρ}
  {scene : Scene σ ρ}

/-- The endpoints that the registry has accepted, in order. -/
def accepted
    (blueprint : Blueprint σ ρ)
    (scene : Scene σ ρ) : List Endpoint :=
  scene.history.flatMap fun deed =>
    deed.job.accepting blueprint deed.before.registrar.registry

/-- The books as they are. -/
def ledger
    (blueprint : Blueprint σ ρ)
    (scene : Scene σ ρ) : Ledger where
  accepted := scene.accepted blueprint
  tracked := scene.host.registrar.tracked
  withdrawn := withdrawals scene.journal

/-- The books say what the state and the jobs of the errands expect. -/
structure Balanced
    (blueprint : Blueprint σ ρ)
    (scene : Scene σ ρ) : Prop where
  state :
    scene.host.state.Books blueprint.endpoints (scene.ledger blueprint)
  jobs :
    ∀ errand ∈ scene.errands,
      errand.job.Books blueprint.endpoints (scene.ledger blueprint)

/-- The books after a turn are those before it with what the step adds. -/
theorem ledger_turned
    (blueprint : Blueprint σ ρ)
    (scene : Scene σ ρ)
    (actor : Nat)
    (errand : Errand σ)
    (turn : Turn σ ρ) :
    (scene.turned actor errand turn).ledger blueprint =
      (scene.ledger blueprint).after blueprint scene.host errand.job
        turn := by
  simp only [ledger, Ledger.after, journal_turned, withdrawals_append]
  simp [accepted, turned]

/-- Where there is no registry, nothing is accepted. -/
theorem accepted_eq_nil
    (scene : Scene σ ρ)
    (none : blueprint.client = none) :
    scene.accepted blueprint = [] := by
  apply List.flatMap_eq_nil_iff.mpr
  intro deed _
  unfold Job.accepting
  split
  · rw [none]
  · rfl

/-- Whoever is not in charge leaves the books as they are. -/
theorem isPlain_of_idle
    {job : Job σ}
    (idle : job.phase? = none) :
    job.isPlain = true := by
  cases job with
  | offer _ | track _ _ | withdraw _ _ =>
      cases idle
  | _ =>
      rfl

/-- While somebody is in charge, the state asks nothing of the books. -/
theorem stateBooks_of_phase
    {state : State}
    {phase : Phase}
    (held : state.phase? = some phase)
    (endpoints : List Endpoint)
    (ledger : Ledger) :
    state.Books endpoints ledger := by
  cases state with
  | starting | shuttingDown =>
      trivial
  | _ =>
      cases held

/-- A step keeps the books balanced. -/
theorem Balanced.turned
    {actor : Nat}
    {errand : Errand σ}
    {turn : Turn σ ρ}
    (balanced : Balanced blueprint scene)
    (governed : Governed scene)
    (found : scene.errands[actor]? = some errand)
    (stepped : blueprint.step scene.host errand.job = some turn) :
    Balanced blueprint (scene.turned actor errand turn) := by
  have member := List.mem_of_getElem? found
  have inPlace := governed.inPlace member
  have passage := governed.passage found stepped
  have books := balanced.jobs errand member
  have plainly (plain : errand.job.isPlain = true) :
      (scene.turned actor errand turn).ledger blueprint =
        scene.ledger blueprint := by
    rw [ledger_turned]
    exact Blueprint.after_of_plain stepped inPlace rfl plain
  have own :
      turn.next.Books blueprint.endpoints
          ((scene.turned actor errand turn).ledger blueprint) ∧
        turn.host.state.Books blueprint.endpoints
          ((scene.turned actor errand turn).ledger blueprint) := by
    cases passage with
    | move shift =>
        have plain : errand.job.isPlain = true := by
          obtain ⟨request, job⟩ := errand
          cases shift <;> rfl
        rw [plainly plain]
        exact Blueprint.books_of_shift shift balanced.state books
    | stay state phase unreported spawned =>
        rw [state]
        cases charged : errand.job.phase? with
        | none =>
            rw [plainly (isPlain_of_idle charged)]
            exact ⟨Blueprint.books_of_idle (phase.trans charged),
              balanced.state⟩
        | some held =>
            refine ⟨?_, stateBooks_of_phase (inPlace held charged) _ _⟩
            rw [ledger_turned]
            exact Blueprint.books_of_step stepped inPlace charged rfl
              (accepted_eq_nil scene) books
  refine { state := own.2, jobs := ?_ }
  intro present there
  obtain ⟨place, listed⟩ := List.getElem?_of_mem there
  rcases errand_turned listed with
    ⟨rfl, rfl⟩ | ⟨different, same⟩ | ⟨absent, joins⟩
  · exact own.1
  · cases charged : present.job.phase? with
    | none =>
        exact Blueprint.books_of_idle charged
    | some held =>
        have idle : errand.job.phase? = none :=
          governed.idle same charged found (Ne.symm different)
        rw [plainly (isPlain_of_idle idle)]
        exact balanced.jobs present (List.mem_of_getElem? same)
  · rw [eq_of_mem_joining passage joins]
    trivial

/-- In every scene the books are balanced. -/
theorem Reachable.balanced
    (reachable : Reachable blueprint scene) :
    Balanced blueprint scene := by
  refine reachable.induct ?_ ?_ ?_ ?_
  · intro surroundings
    refine { state := rfl, jobs := ?_ }
    intro errand member
    exact absurd member List.not_mem_nil
  · intro scene request _ balanced
    refine { state := balanced.state, jobs := ?_ }
    intro errand member
    rcases List.mem_append.mp member with earlier | last
    · exact balanced.jobs errand earlier
    · rw [List.mem_singleton.mp last]
      cases request <;> trivial
  · intro scene actor errand turn reached found stepped balanced
    exact balanced.turned reached.governed found stepped
  · intro scene surroundings balanced
    exact { state := balanced.state, jobs := balanced.jobs }

end Scene

end PluggableHost.Lifecycle
