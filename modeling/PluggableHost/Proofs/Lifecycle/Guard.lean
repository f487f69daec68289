import PluggableHost.Proofs.Lifecycle.Counting

namespace PluggableHost.Lifecycle

open PluggableHost.Net PluggableHost.Observability

/-!
# The guard of a start

A start looks at the state first.  One start at most finds a host that was never
started.  Every other start returns the state that it has found, and leaves the
host as it is but for a warning.
-/

variable {σ ρ : Type}

namespace Deed

/-- The deed is the first step of a start that finds its host not started. -/
def passesGuard (deed : Deed σ ρ) : Bool :=
  match deed.job with
  | .begin => deed.before.state == .notStarted
  | _ => false

/-- A start finds its host in another state, and touches nothing. -/
def turnedAway
    (actor : Nat)
    (before : Host σ ρ) : Deed σ ρ :=
  { actor
    request := .start
    job := .begin
    before
    turn := { host := before, next := .refuseToBegin before.state } }

/-- A start that was turned away warns, returns what it found, and touches nothing. -/
def warning
    (actor : Nat)
    (found : State)
    (before : Host σ ρ) : Deed σ ρ :=
  { actor
    request := .start
    job := .refuseToBegin found
    before
    turn :=
      { host := before
        next := .done (.error (.invalidState "start" found))
        journal :=
          [startupEvent .warn "Start requested in invalid state"
            [("state", .text found.name)]] } }

/-- The deed that passes the guard is the one that enters the second state. -/
theorem passesGuard_iff
    {blueprint : Blueprint σ ρ}
    {deed : Deed σ ρ}
    (stepped : blueprint.step deed.before deed.job = some deed.turn)
    (passage : Passage deed.before deed.job deed.turn) :
    deed.passesGuard = true ↔ deed.entered? = some .starting := by
  obtain ⟨actor, request, job, before, turn⟩ := deed
  change Passage before job turn at passage
  constructor
  · intro passes
    cases job <;>
      simp only [passesGuard, Bool.false_eq_true] at passes
    have free : before.state = .notStarted := by
      simpa using passes
    simp only [Blueprint.step, before.advance_of_eq _ free] at stepped
    cases stepped
    simp [entered?, free]
  · intro entered
    cases passage with
    | stay state phase unreported spawned =>
        rw [entered?, if_pos state] at entered
        cases entered
    | move shift =>
        cases shift with
        | start source =>
            simp [passesGuard, source]
        | _ =>
            simp [entered?] at entered

end Deed

namespace Scene

variable
  {blueprint : Blueprint σ ρ}
  {scene : Scene σ ρ}

/-- What one errand has done. -/
def deeds
    (scene : Scene σ ρ)
    (actor : Nat) : List (Deed σ ρ) :=
  scene.history.filter fun deed => deed.actor == actor

/-- What a start has done, and what it is about to do. -/
inductive Course (actor : Nat) : Job σ → List (Deed σ ρ) → Prop where
  /-- It has not looked at the state yet. -/
  | waiting : Course actor .begin []
  /-- It has passed the guard. -/
  | passed
      {first : Deed σ ρ}
      {rest : List (Deed σ ρ)}
      {job : Job σ}
      (guarded : first.passesGuard) :
      Course actor job (first :: rest)
  /-- It has been turned away. -/
  | refused
      {before : Host σ ρ}
      (occupied : before.state ≠ .notStarted) :
      Course actor (.refuseToBegin before.state)
        [.turnedAway actor before]
  /-- It has been turned away, and has returned what it found. -/
  | returned
      {before later : Host σ ρ}
      (occupied : before.state ≠ .notStarted) :
      Course actor (.done (.error (.invalidState "start" before.state)))
        [.turnedAway actor before, .warning actor before.state later]

/-- The first step of a start passes the guard or is turned away. -/
theorem Course.next
    {actor : Nat}
    {host : Host σ ρ}
    {job : Job σ}
    {turn : Turn σ ρ}
    {deeds : List (Deed σ ρ)}
    (course : Course actor job deeds)
    (stepped : blueprint.step host job = some turn) :
    Course actor turn.next
      (deeds ++
        [{ actor, request := .start, job, before := host, turn }]) := by
  cases course with
  | waiting =>
      by_cases free : host.state = .notStarted
      · exact .passed (by simp [Deed.passesGuard, free])
      · simp only [Blueprint.step, host.advance_of_ne _ free] at stepped
        cases stepped
        exact .refused free
  | passed guarded =>
      exact .passed guarded
  | refused occupied =>
      cases stepped
      exact .returned occupied
  | returned occupied =>
      cases stepped

/-- A step adds its one deed to the caller that took it and to nobody else. -/
theorem deeds_turned
    (scene : Scene σ ρ)
    (actor other : Nat)
    (errand : Errand σ)
    (turn : Turn σ ρ) :
    (scene.turned actor errand turn).deeds other =
      scene.deeds other ++
        (if actor = other then
          [{ actor
             request := errand.request
             job := errand.job
             before := scene.host
             turn }]
        else []) := by
  by_cases same : actor = other <;>
    simp [deeds, turned, List.filter_append, same]

/-- An errand that the scene does not hold yet has done nothing. -/
theorem deeds_eq_nil
    (sound : Sound blueprint scene)
    {actor : Nat}
    (absent : scene.errands.length ≤ actor) :
    scene.deeds actor = [] := by
  apply List.filter_eq_nil_iff.mpr
  intro deed member
  have present := sound.present deed member
  simp only [beq_iff_eq]
  omega

/-- Every start is somewhere on its course. -/
def OnCourse (scene : Scene σ ρ) : Prop :=
  ∀ actor errand,
    scene.errands[actor]? = some errand →
    errand.request = .start →
    Course actor errand.job (scene.deeds actor)

/-- Every reachable scene has its calls on course. -/
theorem Reachable.onCourse
    (reachable : Reachable blueprint scene) :
    OnCourse scene := by
  have each :
      Each
        (fun scene actor errand =>
          errand.request = .start →
            Course actor errand.job (scene.deeds actor))
        scene := by
    refine reachable.each ?_ ?_ ?_ ?_ ?_ ?_
    · intro scene request reached starts
      have idle :
          (scene.call request).deeds scene.errands.length = [] :=
        deeds_eq_nil reached.sound (Nat.le_refl _)
      rw [idle]
      change request = .start at starts
      subst starts
      exact .waiting
    · intro scene request actor errand course
      exact course
    · intro scene actor errand turn reached found stepped course starts
      rw [deeds_turned, if_pos rfl]
      have after := (course starts).next stepped
      rw [← starts] at after
      exact after
    · intro scene actor acting turn other errand reached found stepped
        different _ course
      rw [deeds_turned, if_neg (Ne.symm different), List.append_nil]
      exact course
    · intro scene actor acting turn other reached inside absent starts
      cases starts
    · intro scene surroundings actor errand course
      exact course
  exact each

/-- One start at most passes the guard. -/
theorem Reachable.guarded
    (reachable : Reachable blueprint scene) :
    (scene.history.filter Deed.passesGuard).length ≤ 1 := by
  have counted :
      (scene.history.filter Deed.passesGuard).length =
        scene.trail.count .starting :=
    length_filter_eq_count fun deed member =>
      Deed.passesGuard_iff
        (reachable.sound.stepped deed member) (reachable.passage member)
  have once : scene.trail.count .starting = _ :=
    reachable.governed.path.nodup.count
  rw [counted, once]
  split <;> omega

/-- A host that has stopped stays stopped. -/
theorem Reachable.stopped
    (reachable : Reachable blueprint scene)
    (stopped : scene.host.state = .stopped)
    (schedule : List (Happening ρ)) :
    (scene.run blueprint schedule).host.state = .stopped := by
  induction schedule generalizing scene with
  | nil =>
      exact stopped
  | cons happening rest inductionHypothesis =>
      refine inductionHypothesis (reachable.after happening) ?_
      rcases reachable.governed.moves happening with same | moves
      · exact same.trans stopped
      · rw [stopped] at moves
        exact absurd moves
          (State.not_move_of_isTerminal rfl)

/-- The state of a scene has only moved forward, and one start at most has moved it. -/
structure MovesForward
    (blueprint : Blueprint σ ρ)
    (scene : Scene σ ρ) : Prop where
  moves :
    ∀ happening,
      (scene.after blueprint happening).host.state = scene.host.state ∨
        State.Move scene.host.state
          (scene.after blueprint happening).host.state
  final :
    scene.host.state = .stopped →
      ∀ schedule,
        (scene.run blueprint schedule).host.state = .stopped
  path : State.Path scene.trail scene.host.state
  once : scene.trail.Nodup
  counted :
    (∀ errand ∈ scene.errands, errand.job.unreported? = none) →
      ∀ state,
        scene.transitionsTotal state =
          if state ∈ scene.trail then 1 else 0
  guarded : (scene.history.filter Deed.passesGuard).length ≤ 1
  courses : OnCourse scene
  turnsAway :
    ∀ actor,
      scene.errands[actor]? = some { request := .start, job := .begin } →
      scene.host.state ≠ .notStarted →
      (scene.run blueprint [.turn actor, .turn actor]).errands[actor]? =
        some
          { request := .start
            job :=
              .done (.error (.invalidState "start" scene.host.state)) }

/-- A start that finds its host not new returns what it found after two steps. -/
theorem errand_of_occupied
    {actor : Nat}
    (waiting :
      scene.errands[actor]? = some { request := .start, job := .begin })
    (occupied : scene.host.state ≠ .notStarted) :
    (scene.run blueprint [.turn actor, .turn actor]).errands[actor]? =
      some
        { request := .start
          job := .done (.error (.invalidState "start" scene.host.state)) } := by
  have inside : actor < scene.errands.length :=
    (List.getElem?_eq_some_iff.mp waiting).1
  have first :
      scene.after blueprint (.turn actor) =
        scene.turned actor { request := .start, job := .begin }
          { host := scene.host
            next := .refuseToBegin scene.host.state } := by
    simp [after, waiting, Blueprint.step,
      scene.host.advance_of_ne _ occupied]
  show ((scene.after blueprint (.turn actor)).after blueprint
    (.turn actor)).errands[actor]? = _
  rw [first]
  simp [after, Blueprint.step, turned, joining, inside]

/--
Under every interleaving of any number of starts, stops and shutdowns, whatever
the surroundings do, the state of a host only moves forward.
-/
theorem movesForward
    (blueprint : Blueprint σ ρ)
    (surroundings : Surroundings ρ)
    (schedule : List (Happening ρ)) :
    MovesForward blueprint
      (run blueprint (opening surroundings) schedule) := by
  have reachable :
      Reachable blueprint
        (run blueprint (opening surroundings) schedule) :=
    ⟨surroundings, schedule, rfl⟩
  exact
    { moves := reachable.governed.moves
      final := reachable.stopped
      path := reachable.governed.path
      once := reachable.governed.path.nodup
      counted := transitionsTotal_eq reachable
      guarded := reachable.guarded
      courses := reachable.onCourse
      turnsAway := fun _ waiting occupied =>
        errand_of_occupied waiting occupied }

end Scene

end PluggableHost.Lifecycle
