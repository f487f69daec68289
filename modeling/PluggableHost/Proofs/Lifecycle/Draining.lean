import PluggableHost.Proofs.Lifecycle.Listeners

namespace PluggableHost.Lifecycle

open PluggableHost.Net PluggableHost.Observability PluggableHost.Plugin PluggableHost.Registry

/-!
# What is left open when a host has stopped

A start that fails and a shutdown wait for every listener that they take.  A host
that has stopped may still have a listener open for one reason only: somebody has
asked for a stop of his own, has taken the listeners before the shutdown did, and
is still waiting for them.
-/

variable {σ ρ : Type}

namespace Scene

variable
  {blueprint : Blueprint σ ρ}
  {scene : Scene σ ρ}

/-- Whoever stops listeners of his own accord has asked for a stop. -/
theorem Reachable.askedToStop
    (reachable : Reachable blueprint scene) :
    ∀ errand ∈ scene.errands,
      errand.job.isOwnStop = true →
      errand.request = .stop := by
  refine
    reachable.eachErrand
      (fun errand =>
        errand.job.isOwnStop = true → errand.request = .stop)
      ?_ (fun own => nomatch own) ?_
  · intro request own
    cases request with
    | stop =>
        rfl
    | _ =>
        cases own
  · intro scene errand turn _ _ stepped asked own
    exact asked (Blueprint.isOwnStop_of_step stepped own)

/-- Nobody else uses the handles of closed sockets. -/
def KeepsHandles
    (host : Host σ ρ)
    (surroundings : Surroundings ρ) : Prop :=
  host.network.Grows surroundings.network

/-- Listeners that have come to their end are closed for good. -/
structure Spent (scene : Scene σ ρ) : Prop where
  known :
    ∀ listener ∈ scene.opened,
      listener.handle < scene.host.network.opened
  finished :
    ∀ listener ∈ scene.ended,
      scene.host.network.isOpen listener.handle = false

/-- Whatever came to its end was opened. -/
theorem Reachable.opened_of_ended
    (reachable : Reachable blueprint scene)
    {listener : Listener}
    (ended : listener ∈ scene.ended) :
    listener ∈ scene.opened := by
  have conserved := reachable.conserved listener
  have seen : 0 < scene.ended.count listener :=
    List.count_pos_iff.mpr ended
  apply List.count_pos_iff.mp
  omega

/-- Opened listeners have handles that were given out. -/
theorem known_of_opened
    (deed : Deed σ ρ)
    (stepped : blueprint.step deed.before deed.job = some deed.turn)
    {listener : Listener}
    (member : listener ∈ deed.opened) :
    listener.handle < deed.turn.host.network.opened := by
  unfold Deed.opened at member
  split at member
  · next service hasContext same =>
    rw [same] at stepped
    cases Blueprint.handling_of_step stepped with
    | idle listening network empty nothing unready own cleared =>
        rw [Job.holding_of_not_handles nothing] at member
        exact absurd member List.not_mem_nil
    | opens opened network listening next =>
        rw [next] at member
        obtain ⟨sockets, -, -⟩ := sockets_of_openListeners_ok opened
        have listed :
            listener.socket .serving ∈
              deed.turn.host.network.sockets := by
          rw [network, sockets]
          exact List.mem_append_right _ (List.mem_map_of_mem member)
        exact deed.turn.host.network.handle_lt _ listed
    | fails network listening next =>
        rw [next] at member
        exact absurd member List.not_mem_nil
  · exact absurd member List.not_mem_nil

/-- A listener comes to its end when its socket is closed. -/
theorem over_of_ended
    (deed : Deed σ ρ)
    (stepped : blueprint.step deed.before deed.job = some deed.turn)
    {listener : Listener}
    (member : listener ∈ deed.ended) :
    deed.turn.host.network.isOpen listener.handle = false := by
  unfold Deed.ended at member
  split at member
  · next purpose first rest same =>
    rw [same] at stepped
    rw [List.mem_singleton.mp member]
    cases Blueprint.handling_of_step stepped with
    | idle listening network empty nothing unready own cleared =>
        cases empty
    | ends finished unchanged next =>
        rw [unchanged]
        exact finished
  · exact absurd member List.not_mem_nil

/-- A step opens no listener that has come to its end. -/
theorem Spent.turned
    {actor : Nat}
    {errand : Errand σ}
    {turn : Turn σ ρ}
    (spent : Spent scene)
    (reachable : Reachable blueprint scene)
    (stepped : blueprint.step scene.host errand.job = some turn) :
    Spent (scene.turned actor errand turn) := by
  have grows := Blueprint.grows_of_step stepped
  let deed : Deed σ ρ :=
    { actor, request := errand.request, job := errand.job,
      before := scene.host, turn }
  constructor
  · intro listener member
    obtain ⟨done, recorded, opens⟩ := List.mem_flatMap.mp member
    rcases List.mem_append.mp recorded with earlier | last
    · have known :=
        spent.known listener
          (List.mem_flatMap.mpr ⟨done, earlier, opens⟩)
      exact Nat.lt_of_lt_of_le known grows.opened
    · rw [List.mem_singleton.mp last] at opens
      exact known_of_opened deed stepped opens
  · intro listener member
    obtain ⟨done, recorded, ends⟩ := List.mem_flatMap.mp member
    rcases List.mem_append.mp recorded with earlier | last
    · have ended : listener ∈ scene.ended :=
        List.mem_flatMap.mpr ⟨done, earlier, ends⟩
      exact grows.isOpen_eq_false
        (spent.known listener (reachable.opened_of_ended ended))
        (spent.finished listener ended)
    · rw [List.mem_singleton.mp last] at ends
      exact over_of_ended deed stepped ends

/-- Ended listeners stay closed under every schedule that keeps handles. -/
theorem spent_run
    {surroundings : Surroundings ρ}
    {schedule : List (Happening ρ)}
    (abides :
      Abides KeepsHandles blueprint (opening surroundings) schedule) :
    Spent (run blueprint (opening surroundings) schedule) := by
  refine abides.preserves ?_ ?_ ?_ ⟨surroundings, [], rfl⟩ ?_
  · intro scene request _ spent
    exact { known := spent.known, finished := spent.finished }
  · intro scene actor errand turn reached _ stepped spent
    exact spent.turned reached stepped
  · intro scene changed reached grows spent
    constructor
    · intro listener member
      exact Nat.lt_of_lt_of_le (spent.known listener member) grows.opened
    · intro listener member
      exact grows.isOpen_eq_false
        (spent.known listener (reached.opened_of_ended member))
        (spent.finished listener member)
  · constructor <;>
      intro listener member <;>
      exact absurd member List.not_mem_nil

/-- Nobody is in charge of a host that has stopped, so only a stop has listeners in hand. -/
theorem Reachable.askedToStop_of_holding
    (reachable : Reachable blueprint scene)
    (stopped : scene.host.state = .stopped)
    {errand : Errand σ}
    (member : errand ∈ scene.errands)
    {listener : Listener}
    (held : listener ∈ errand.job.holding) :
    errand.request = .stop := by
  have idle (phase : Phase) : errand.job.phase? ≠ some phase := by
    intro charged
    have placed := reachable.governed.inPlace member phase charged
    rw [stopped] at placed
    cases placed
  have asked := reachable.askedToStop errand member
  obtain ⟨request, job⟩ := errand
  cases job with
  | keep service listeners =>
      exact absurd rfl (idle .startup)
  | stop purpose stopping =>
      cases purpose with
      | none =>
          exact asked rfl
      | some purpose =>
          exact absurd rfl (idle purpose.phase)
  | _ =>
      exact absurd held List.not_mem_nil

/-- What is left open when a host has stopped. -/
structure Drains (scene : Scene σ ρ) : Prop where
  vacant :
    scene.host.state = .stopped →
      scene.host.listeners = []
  /-- Every listener was seen come to its end, or somebody's own stop waits for it. -/
  accounted :
    scene.host.state = .stopped →
      ∀ listener ∈ scene.opened,
        listener ∈ scene.ended ∨
          ∃ errand ∈ scene.errands,
            errand.request = .stop ∧ listener ∈ errand.job.holding
  /-- A listener that is still open is one that somebody's own stop waits for. -/
  waited :
    scene.host.state = .stopped →
      ∀ listener ∈ scene.opened,
        scene.host.network.isOpen listener.handle = true →
          ∃ errand ∈ scene.errands,
            errand.request = .stop ∧ listener ∈ errand.job.holding
  /-- When all stops have returned, no listener is open. -/
  closed :
    scene.host.state = .stopped →
      (∀ errand ∈ scene.errands,
        errand.request = .stop → errand.job.isOver = true) →
      ∀ listener ∈ scene.opened,
        scene.host.network.isOpen listener.handle = false

/--
Under every interleaving of starts, stops and shutdowns, a host that has stopped has
no listener open but those that somebody's own stop has taken and waits for.
-/
theorem drainsBeforeItStops
    (blueprint : Blueprint σ ρ)
    (surroundings : Surroundings ρ)
    (schedule : List (Happening ρ))
    (abides :
      Abides KeepsHandles blueprint (opening surroundings) schedule) :
    Drains (run blueprint (opening surroundings) schedule) := by
  have spent := spent_run abides
  have reachable :
      Reachable blueprint
        (run blueprint (opening surroundings) schedule) :=
    ⟨surroundings, schedule, rfl⟩
  generalize run blueprint (opening surroundings) schedule = scene
    at spent reachable
  have vacant (stopped : scene.host.state = .stopped) :
      scene.host.listeners = [] := by
    rw [Host.listeners, reachable.cleared.state stopped]
    rfl
  have accounted
      (stopped : scene.host.state = .stopped)
      (listener : Listener)
      (opened : listener ∈ scene.opened) :
      listener ∈ scene.ended ∨
        ∃ errand ∈ scene.errands,
          errand.request = .stop ∧ listener ∈ errand.job.holding := by
    have conserved := reachable.conserved listener
    have copies : 0 < scene.opened.count listener :=
      List.count_pos_iff.mpr opened
    rw [vacant stopped, List.count_nil] at conserved
    by_cases ended : listener ∈ scene.ended
    · exact .inl ended
    · have none : scene.ended.count listener = 0 :=
        List.count_eq_zero.mpr ended
      have held : listener ∈ scene.held :=
        List.count_pos_iff.mp (by omega)
      obtain ⟨errand, member, holds⟩ := List.mem_flatMap.mp held
      exact .inr
        ⟨errand, member,
          reachable.askedToStop_of_holding stopped member holds, holds⟩
  have waited
      (stopped : scene.host.state = .stopped)
      (listener : Listener)
      (opened : listener ∈ scene.opened)
      (isOpen : scene.host.network.isOpen listener.handle = true) :
      ∃ errand ∈ scene.errands,
        errand.request = .stop ∧ listener ∈ errand.job.holding := by
    rcases accounted stopped listener opened with ended | held
    · rw [spent.finished listener ended] at isOpen
      cases isOpen
    · exact held
  refine { vacant, accounted, waited, closed := ?_ }
  intro stopped returned listener opened
  rw [Bool.eq_false_iff]
  intro isOpen
  obtain ⟨errand, member, asked, holds⟩ :=
    waited stopped listener opened isOpen
  have finished := returned errand member asked
  obtain ⟨request, job⟩ := errand
  cases job with
  | done _ | brokenDown =>
      exact absurd holds List.not_mem_nil
  | _ =>
      cases finished

/-- A host in the clear that keeps to itself. -/
def secluded : Blueprint Unit Unit where
  plugins :=
    ({} : Plugins Unit Unit).provide .answer
      { name := "root"
        handler := some fun _ => .done { status := 200 } }
  material := .memory []
  handlesSignals := false

/-- A machine on which nothing happens but what the host does. -/
def quiet : Surroundings Unit where
  registry := ()
  network := { rules := .standard }

/--
Somebody stops the listeners of a running host and waits for the requests in flight,
when somebody else shuts the host down.
-/
def overtaken : List (Happening Unit) :=
  .call .start :: List.replicate 13 (.turn 0) ++
    [.call .stop, .turn 1, .turn 1, .call .shutdown] ++
    List.replicate 11 (.turn 2)

/-- Nothing happens elsewhere while the stop is overtaken. -/
theorem abides_overtaken
    (rule : Host Unit Unit → Surroundings Unit → Prop) :
    Abides rule secluded (opening quiet) overtaken := by
  apply abides_of_undisturbed
  intro surroundings member
  simp [overtaken] at member

/-- The shutdown finds no listener to wait for, and the host has stopped too soon. -/
theorem stopped_with_listener_open :
    let scene := run secluded (opening quiet) overtaken
    Abides KeepsHandles secluded (opening quiet) overtaken ∧
      scene.host.state = .stopped ∧
      (scene.opened.any fun listener =>
        scene.host.network.isOpen listener.handle) = true := by
  refine ⟨abides_overtaken KeepsHandles, ?_, ?_⟩ <;>
    decide +kernel

/-- There are hosts that have stopped while a stop still waits. -/
theorem drainsBeforeItStops_overtaken :
    let scene := run secluded (opening quiet) overtaken
    Abides KeepsHandles secluded (opening quiet) overtaken ∧
      scene.host.state = .stopped ∧
      Drains scene := by
  have abides := abides_overtaken KeepsHandles
  refine ⟨abides, ?_, drainsBeforeItStops secluded quiet overtaken abides⟩
  decide +kernel

end Scene

end PluggableHost.Lifecycle
