import PluggableHost.Lifecycle.Step

namespace PluggableHost.Lifecycle

open PluggableHost.Net PluggableHost.Observability PluggableHost.Registry

/-!
# Scenes

All that is asked of one host, and all that comes of it.  A scene holds the host,
the errands that were ever started on it, and a history of the steps that they
have taken.  What happens next is free: somebody asks for a start, a shutdown or
a stop, one errand takes one step, or the surroundings of the host change.  A
schedule is any list of such happenings, so that what holds of the scenes that
schedules lead to holds under every interleaving of any number of requests.
-/

/-- What a host shares with the rest of the machine, which may change at any time. -/
structure Surroundings (ρ : Type) where
  registry : ρ
  switches : SwitchBoard := {}
  network : Network
  signalled : Bool := false

variable {σ ρ : Type}

/-- A host that nobody has asked anything of. -/
def Host.fresh (surroundings : Surroundings ρ) : Host σ ρ :=
  { registrar :=
      { registry := surroundings.registry
        switches := surroundings.switches }
    network := surroundings.network
    signalled := surroundings.signalled }

/-- A host whose surroundings have changed. -/
def Host.within
    (host : Host σ ρ)
    (surroundings : Surroundings ρ) : Host σ ρ :=
  { host with
    registrar :=
      { host.registrar with
        registry := surroundings.registry
        switches := surroundings.switches }
    network := surroundings.network
    signalled := surroundings.signalled }

/-- What may be asked of a host. -/
inductive Demand where
  | start
  | shutdown
  | stop
  deriving Repr, DecidableEq

/-- The job that meets a request. -/
def Demand.job : Demand → Job σ
  | start => .begin
  | shutdown => .claim
  | stop => .stopListeners

/-- A request with the rest of the job that meets it. -/
structure Errand (σ : Type) where
  request : Demand
  job : Job σ

/-- One step of an errand: the errand and the host before it, and what it led to. -/
structure Deed (σ ρ : Type) where
  actor : Nat
  request : Demand
  job : Job σ
  before : Host σ ρ
  turn : Turn σ ρ

/-- A host, the errands on it, and what they have done, in order. -/
structure Scene (σ ρ : Type) where
  host : Host σ ρ
  errands : List (Errand σ) := []
  history : List (Deed σ ρ) := []

/-- What may happen to a scene. -/
inductive Happening (ρ : Type) where
  | call (request : Demand)
  | turn (actor : Nat)
  | elsewhere (surroundings : Surroundings ρ)

/-- What a list yields, item by item. -/
theorem filterMap_cons_toList
    {α β : Type}
    (yield : α → Option β)
    (item : α)
    (rest : List α) :
    (item :: rest).filterMap yield =
      (yield item).toList ++ rest.filterMap yield := by
  cases found : yield item <;>
    simp [found]

/-- The items that yield a value are as many as the value is yielded. -/
theorem length_filter_eq_count
    {α β : Type}
    [DecidableEq β]
    {items : List α}
    {select : α → Bool}
    {yield : α → Option β}
    {value : β}
    (yields :
      ∀ item ∈ items, select item = true ↔ yield item = some value) :
    (items.filter select).length =
      (items.filterMap yield).count value := by
  rw [← List.countP_eq_length_filter, List.count, List.countP_filterMap]
  apply List.countP_congr
  intro item member
  rw [yields item member]
  cases yield item <;> simp

/-- Two items of a selection of one at most are the same. -/
theorem eq_of_mem_of_selected
    {α : Type}
    {items : List α}
    {select : α → Bool}
    (once : (items.filter select).length ≤ 1)
    {first second : α}
    (member : first ∈ items)
    (selected : select first = true)
    (present : second ∈ items)
    (chosen : select second = true) :
    first = second := by
  have mine := List.mem_filter.mpr ⟨member, selected⟩
  have yours := List.mem_filter.mpr ⟨present, chosen⟩
  match found : items.filter select with
  | [] =>
      rw [found] at mine
      exact absurd mine List.not_mem_nil
  | [only] =>
      rw [found] at mine yours
      rw [List.mem_singleton.mp mine, List.mem_singleton.mp yours]
  | _ :: _ :: _ =>
      rw [found] at once
      simp at once

namespace Scene

variable
  {blueprint : Blueprint σ ρ}
  {scene : Scene σ ρ}

/-- Somebody asks something of the host. -/
def call
    (scene : Scene σ ρ)
    (request : Demand) : Scene σ ρ :=
  { scene with
    errands := scene.errands ++ [{ request, job := request.job }] }

/-- The errands that a step has given rise to. -/
def joining (turn : Turn σ ρ) : List (Errand σ) :=
  turn.spawned.map fun job => { request := .shutdown, job }

/-- An errand has taken a step. -/
def turned
    (scene : Scene σ ρ)
    (actor : Nat)
    (errand : Errand σ)
    (turn : Turn σ ρ) : Scene σ ρ :=
  { host := turn.host
    errands :=
      scene.errands.set actor { errand with job := turn.next } ++
        joining turn
    history :=
      scene.history ++
        [{ actor
           request := errand.request
           job := errand.job
           before := scene.host
           turn }] }

/-- A happening.  Turns of errands that are over or have to wait change nothing. -/
def after
    (blueprint : Blueprint σ ρ)
    (scene : Scene σ ρ) : Happening ρ → Scene σ ρ
  | .call request => scene.call request
  | .turn actor =>
      match scene.errands[actor]? with
      | none => scene
      | some errand =>
          match blueprint.step scene.host errand.job with
          | none => scene
          | some turn => scene.turned actor errand turn
  | .elsewhere surroundings =>
      { scene with host := scene.host.within surroundings }

/-- Happenings in order. -/
def run
    (blueprint : Blueprint σ ρ)
    (scene : Scene σ ρ)
    (schedule : List (Happening ρ)) : Scene σ ρ :=
  schedule.foldl (after blueprint) scene

/-- The scene of a new host. -/
def opening (surroundings : Surroundings ρ) : Scene σ ρ :=
  { host := .fresh surroundings }

/-- All that was written down in a scene. -/
def journal (scene : Scene σ ρ) : List Entry :=
  scene.history.flatMap fun deed => deed.turn.journal

/-- Scenes that schedules lead to from the opening of some scene. -/
def Reachable
    (blueprint : Blueprint σ ρ)
    (scene : Scene σ ρ) : Prop :=
  ∃ surroundings schedule,
    scene = run blueprint (opening surroundings) schedule

/-- A turn leaves the scene as it is, or is the step of some errand. -/
theorem after_turn
    (blueprint : Blueprint σ ρ)
    (scene : Scene σ ρ)
    (actor : Nat) :
    scene.after blueprint (.turn actor) = scene ∨
      ∃ errand turn,
        scene.errands[actor]? = some errand ∧
        blueprint.step scene.host errand.job = some turn ∧
        scene.after blueprint (.turn actor) =
          scene.turned actor errand turn := by
  cases found : scene.errands[actor]? with
  | none =>
      exact .inl (by simp [after, found])
  | some errand =>
      cases stepped : blueprint.step scene.host errand.job with
      | none =>
          exact .inl (by simp [after, found, stepped])
      | some turn =>
          exact .inr ⟨errand, turn, rfl, stepped,
            by simp [after, found, stepped]⟩

/-- The errand that takes a step, among the others. -/
theorem errands_split
    {actor : Nat}
    {errand : Errand σ}
    (found : scene.errands[actor]? = some errand)
    (turn : Turn σ ρ) :
    ∃ earlier later,
      scene.errands = earlier ++ errand :: later ∧
      earlier.length = actor ∧
      (scene.turned actor errand turn).errands =
        earlier ++ { errand with job := turn.next } :: later ++
          joining turn := by
  obtain ⟨inside, same⟩ := List.getElem?_eq_some_iff.mp found
  obtain ⟨earlier, later, shape, length, changed⟩ :
      ∃ earlier later,
        scene.errands = earlier ++ scene.errands[actor] :: later ∧
        earlier.length = actor ∧
        scene.errands.set actor { errand with job := turn.next } =
          earlier ++ { errand with job := turn.next } :: later :=
    List.exists_of_set inside
  rw [same] at shape
  exact ⟨earlier, later, shape, length, by rw [turned, changed]⟩

/-- A step adds its entries to the end of the journal. -/
theorem journal_turned
    (scene : Scene σ ρ)
    (actor : Nat)
    (errand : Errand σ)
    (turn : Turn σ ρ) :
    (scene.turned actor errand turn).journal =
      scene.journal ++ turn.journal := by
  simp [journal, turned]

/-- Schedules follow each other. -/
theorem Reachable.run
    (reachable : Reachable blueprint scene)
    (schedule : List (Happening ρ)) :
    Reachable blueprint (scene.run blueprint schedule) := by
  obtain ⟨surroundings, earlier, rfl⟩ := reachable
  exact ⟨surroundings, earlier ++ schedule, by simp [Scene.run]⟩

/-- What follows a reachable scene is reachable. -/
theorem Reachable.after
    (reachable : Reachable blueprint scene)
    (happening : Happening ρ) :
    Reachable blueprint (scene.after blueprint happening) :=
  reachable.run [happening]

/-- A step of a caller in a reachable scene leads to a reachable one. -/
theorem Reachable.turned
    {actor : Nat}
    {errand : Errand σ}
    {turn : Turn σ ρ}
    (reachable : Reachable blueprint scene)
    (found : scene.errands[actor]? = some errand)
    (stepped : blueprint.step scene.host errand.job = some turn) :
    Reachable blueprint (scene.turned actor errand turn) := by
  have next := reachable.after (.turn actor)
  simpa [Scene.after, found, stepped] using next

/--
What holds of the opening scene and is preserved by requests, by steps of errands
and by changes elsewhere holds under every schedule.
-/
theorem Reachable.induct
    {invariant : Scene σ ρ → Prop}
    (opens : ∀ surroundings, invariant (opening surroundings))
    (call :
      ∀ scene request,
        Reachable blueprint scene →
        invariant scene →
        invariant (scene.call request))
    (turned :
      ∀ scene actor errand turn,
        Reachable blueprint scene →
        scene.errands[actor]? = some errand →
        blueprint.step scene.host errand.job = some turn →
        invariant scene →
        invariant (scene.turned actor errand turn))
    (elsewhere :
      ∀ scene surroundings,
        invariant scene →
        invariant { scene with host := scene.host.within surroundings })
    (reachable : Reachable blueprint scene) :
    invariant scene := by
  have after
      (scene : Scene σ ρ)
      (happening : Happening ρ)
      (reached : Reachable blueprint scene)
      (holds : invariant scene) :
      invariant (scene.after blueprint happening) := by
    cases happening with
    | call request =>
        exact call scene request reached holds
    | turn actor =>
        rcases after_turn blueprint scene actor with
          same | ⟨errand, turn, found, stepped, same⟩
        · rw [same]
          exact holds
        · rw [same]
          exact turned scene actor errand turn reached found stepped holds
    | elsewhere surroundings =>
        exact elsewhere scene surroundings holds
  have run
      (schedule : List (Happening ρ))
      (scene : Scene σ ρ)
      (reached : Reachable blueprint scene)
      (holds : invariant scene) :
      invariant (scene.run blueprint schedule) := by
    induction schedule generalizing scene with
    | nil =>
        exact holds
    | cons happening rest inductionHypothesis =>
        exact inductionHypothesis _ (reached.after happening)
          (after scene happening reached holds)
  obtain ⟨surroundings, schedule, rfl⟩ := reachable
  exact run schedule _ ⟨surroundings, [], rfl⟩ (opens surroundings)

/--
What happens elsewhere under a schedule keeps to a rule about the host and its new
surroundings.
-/
def Abides
    (rule : Host σ ρ → Surroundings ρ → Prop)
    (blueprint : Blueprint σ ρ) :
    Scene σ ρ → List (Happening ρ) → Prop
  | _, [] => True
  | scene, happening :: rest =>
      (∀ surroundings,
          happening = .elsewhere surroundings →
          rule scene.host surroundings) ∧
        Abides rule blueprint (scene.after blueprint happening) rest

/-- Nothing happens elsewhere under a schedule of requests and turns. -/
theorem abides_of_undisturbed
    {rule : Host σ ρ → Surroundings ρ → Prop}
    {schedule : List (Happening ρ)}
    (undisturbed :
      ∀ surroundings, Happening.elsewhere surroundings ∉ schedule) :
    Abides rule blueprint scene schedule := by
  induction schedule generalizing scene with
  | nil =>
      trivial
  | cons happening rest inductionHypothesis =>
      constructor
      · intro surroundings same
        have member : happening ∈ happening :: rest := List.mem_cons_self
        rw [same] at member
        exact absurd member (same ▸ undisturbed surroundings)
      · apply inductionHypothesis
        intro surroundings member
        exact undisturbed surroundings (List.mem_cons_of_mem _ member)

/--
What holds of a scene and is preserved by requests, by steps of errands and by
what a rule allows elsewhere holds under every schedule that abides by the rule.
-/
theorem Abides.preserves
    {rule : Host σ ρ → Surroundings ρ → Prop}
    {invariant : Scene σ ρ → Prop}
    (call :
      ∀ scene request,
        Reachable blueprint scene →
        invariant scene →
        invariant (scene.call request))
    (turned :
      ∀ scene actor errand turn,
        Reachable blueprint scene →
        scene.errands[actor]? = some errand →
        blueprint.step scene.host errand.job = some turn →
        invariant scene →
        invariant (scene.turned actor errand turn))
    (elsewhere :
      ∀ scene surroundings,
        Reachable blueprint scene →
        rule scene.host surroundings →
        invariant scene →
        invariant { scene with host := scene.host.within surroundings })
    {schedule : List (Happening ρ)}
    (reached : Reachable blueprint scene)
    (abides : Abides rule blueprint scene schedule)
    (holds : invariant scene) :
    invariant (scene.run blueprint schedule) := by
  induction schedule generalizing scene with
  | nil =>
      exact holds
  | cons happening rest inductionHypothesis =>
      obtain ⟨ruled, onwards⟩ := abides
      apply inductionHypothesis (reached.after happening) onwards
      cases happening with
      | call request =>
          exact call scene request reached holds
      | turn actor =>
          rcases after_turn blueprint scene actor with
            same | ⟨errand, turn, found, stepped, same⟩
          · rw [same]
            exact holds
          · rw [same]
            exact turned scene actor errand turn reached found stepped
              holds
      | elsewhere surroundings =>
          exact elsewhere scene surroundings reached
            (ruled surroundings rfl) holds

/-- The errand of an actor after a turn of some actor. -/
theorem errand_turned
    {actor other : Nat}
    {errand found : Errand σ}
    {turn : Turn σ ρ}
    (present : (scene.turned actor errand turn).errands[other]? = some found) :
    (other = actor ∧ found = { errand with job := turn.next }) ∨
      (other ≠ actor ∧ scene.errands[other]? = some found) ∨
      (scene.errands.length ≤ other ∧ found ∈ joining turn) := by
  simp only [turned, List.getElem?_append, List.length_set] at present
  by_cases old : other < scene.errands.length
  · rw [if_pos old, List.getElem?_set] at present
    by_cases same : actor = other
    · subst same
      simp only [↓reduceIte, old, Option.some.injEq] at present
      exact .inl ⟨rfl, present.symm⟩
    · rw [if_neg same] at present
      exact .inr (.inl ⟨Ne.symm same, present⟩)
  · rw [if_neg old] at present
    exact .inr (.inr ⟨Nat.le_of_not_lt old,
      List.mem_of_getElem? present⟩)

/-- The actor's own errand after its step. -/
theorem errand_self
    {actor : Nat}
    {errand : Errand σ}
    (found : scene.errands[actor]? = some errand)
    (turn : Turn σ ρ) :
    (scene.turned actor errand turn).errands[actor]? =
      some { errand with job := turn.next } := by
  have inside : actor < scene.errands.length :=
    (List.getElem?_eq_some_iff.mp found).1
  simp [turned, List.getElem?_append, inside]

/-- The errand of somebody else after a step. -/
theorem errand_other
    {actor other : Nat}
    {errand present : Errand σ}
    (different : other ≠ actor)
    (found : scene.errands[other]? = some present)
    (turn : Turn σ ρ) :
    (scene.turned actor errand turn).errands[other]? = some present := by
  have inside : other < scene.errands.length :=
    (List.getElem?_eq_some_iff.mp found).1
  simp only [turned, List.getElem?_append, List.length_set, inside,
    ↓reduceIte]
  rw [List.getElem?_set_ne (Ne.symm different)]
  exact found

/-- Every deed is a step of an errand that the scene holds. -/
structure Sound
    (blueprint : Blueprint σ ρ)
    (scene : Scene σ ρ) : Prop where
  stepped :
    ∀ deed ∈ scene.history,
      blueprint.step deed.before deed.job = some deed.turn
  present :
    ∀ deed ∈ scene.history, deed.actor < scene.errands.length

/-- Every reachable scene is sound. -/
theorem Reachable.sound
    (reachable : Reachable blueprint scene) :
    Sound blueprint scene := by
  refine reachable.induct ?_ ?_ ?_ ?_
  · intro surroundings
    constructor <;>
      intro deed member <;>
      exact absurd member List.not_mem_nil
  · intro scene request _ sound
    refine { stepped := sound.stepped, present := ?_ }
    intro deed member
    have inside := sound.present deed member
    simp only [call, List.length_append]
    omega
  · intro scene actor errand turn _ found stepped sound
    have inside : actor < scene.errands.length :=
      (List.getElem?_eq_some_iff.mp found).1
    constructor <;>
      intro deed member <;>
      rcases List.mem_append.mp member with earlier | last
    · exact sound.stepped deed earlier
    · rw [List.mem_singleton.mp last]
      exact stepped
    · have before := sound.present deed earlier
      simp only [Scene.turned, List.length_append, List.length_set]
      omega
    · rw [List.mem_singleton.mp last]
      simp only [Scene.turned, List.length_append, List.length_set]
      omega
  · intro scene surroundings sound
    exact { stepped := sound.stepped, present := sound.present }

/-- The scene in which a deed was done. -/
structure Past
    (blueprint : Blueprint σ ρ)
    (past : Scene σ ρ)
    (deed : Deed σ ρ) : Prop where
  reachable : Reachable blueprint past
  host : past.host = deed.before
  errand :
    past.errands[deed.actor]? =
      some { request := deed.request, job := deed.job }
  stepped : blueprint.step past.host deed.job = some deed.turn

/-- What a history tells about every deed: it was done in a scene with what came before. -/
def Chronicled
    (blueprint : Blueprint σ ρ)
    (scene : Scene σ ρ) : Prop :=
  ∀ earlier deed later,
    scene.history = earlier ++ deed :: later →
    ∃ past, Past blueprint past deed ∧ past.history = earlier

/-- Every reachable scene is chronicled. -/
theorem Reachable.chronicled
    (reachable : Reachable blueprint scene) :
    Chronicled blueprint scene := by
  refine reachable.induct ?_ ?_ ?_ ?_
  · intro surroundings earlier deed later shape
    simp [opening] at shape
  · intro scene request _ chronicled
    exact chronicled
  · intro scene actor errand turn reached found stepped chronicled earlier
      deed later shape
    rcases List.eq_nil_or_concat later with rfl | ⟨between, last, rfl⟩
    · obtain ⟨same, new⟩ := List.append_inj' shape rfl
      injection new with new
      subst same new
      exact ⟨scene, ⟨reached, rfl, found, stepped⟩, rfl⟩
    · refine chronicled earlier deed between ?_
      rw [List.concat_eq_append, ← List.cons_append,
        ← List.append_assoc] at shape
      exact (List.append_inj' shape rfl).1
  · intro scene surroundings chronicled
    exact chronicled

/-- Every deed was done in some scene, and all that was done before is in the history. -/
theorem Reachable.pastWithin
    (reachable : Reachable blueprint scene)
    {deed : Deed σ ρ}
    (member : deed ∈ scene.history) :
    ∃ past, Past blueprint past deed ∧ past.history ⊆ scene.history := by
  obtain ⟨earlier, later, shape⟩ := List.append_of_mem member
  obtain ⟨past, done, same⟩ :=
    reachable.chronicled earlier deed later shape
  refine ⟨past, done, ?_⟩
  rw [shape, same]
  exact List.subset_append_left _ _

/-- Every deed was done in some scene. -/
theorem Reachable.past
    (reachable : Reachable blueprint scene)
    {deed : Deed σ ρ}
    (member : deed ∈ scene.history) :
    ∃ past, Past blueprint past deed := by
  obtain ⟨past, done, -⟩ := reachable.pastWithin member
  exact ⟨past, done⟩

end Scene

end PluggableHost.Lifecycle
