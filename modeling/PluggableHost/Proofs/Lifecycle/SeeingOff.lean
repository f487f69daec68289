import PluggableHost.Proofs.Lifecycle.Effects

namespace PluggableHost.Lifecycle

open PluggableHost.Net PluggableHost.Plugin

/-!
# How listeners are seen off

Whoever takes the listeners of a host tells them to drain, and then waits for one
after the other until it is closed.  As long as that goes on the job of the actor
tells how far it has come, and when the job goes on to something else, it is done.
-/

variable {σ ρ : Type}

namespace Job

/-- The listeners that a job has taken and is about to dismiss. -/
def dismissing? : Job σ → Option (List Listener)
  | stop _ (.dismiss listeners) => some listeners
  | _ => none

/-- The dismissed listeners that a job still waits for. -/
def awaiting : Job σ → List Listener
  | stop _ (.await listeners) => listeners
  | _ => []

/-- A job that handles no listeners awaits none. -/
theorem awaiting_of_not_handles
    {job : Job σ}
    (free : job.handles = false) :
    job.awaiting = [] := by
  cases job with
  | stop purpose stopping =>
      cases stopping with
      | await listeners =>
          cases free
      | _ =>
          rfl
  | _ =>
      rfl

/-- A job that holds no listener awaits none. -/
theorem awaiting_of_holding
    {job : Job σ}
    (empty : job.holding = []) :
    job.awaiting = [] := by
  cases job with
  | stop purpose stopping =>
      cases stopping with
      | await listeners =>
          exact empty
      | _ =>
          rfl
  | _ =>
      rfl

/-- What follows a stop handles no listeners. -/
theorem handles_afterStop
    (purpose : Option Purpose) :
    (afterStop purpose : Job σ).handles = false := by
  cases purpose with
  | none =>
      rfl
  | some purpose =>
      cases purpose <;> rfl

/-- A job that holds no listener has none to dismiss. -/
theorem eq_nil_of_dismissing?
    {job : Job σ}
    {listeners : List Listener}
    (empty : job.holding = [])
    (dismissing : job.dismissing? = some listeners) :
    listeners = [] := by
  cases job with
  | stop purpose stopping =>
      cases stopping with
      | dismiss held =>
          cases dismissing
          exact empty
      | _ =>
          cases dismissing
  | _ =>
      cases dismissing

end Job

/--
After a deed has taken listeners, its actor has told them to drain, and after that
it has seen each of them closed that is not left.
-/
structure Farewell
    (taking : Deed σ ρ)
    (listeners left : List Listener)
    (earlier : List (Deed σ ρ))
    (dismissal : Deed σ ρ)
    (later : List (Deed σ ρ)) : Prop where
  before : taking ∈ earlier
  actor : dismissal.actor = taking.actor
  drains :
    dismissal.turn.host.network =
      setStages .draining listeners dismissal.before.network
  closed :
    ∀ listener ∈ listeners,
      listener ∈ left ∨
        ∃ sight ∈ later,
          sight.actor = taking.actor ∧
            sight.before.network.isOpen listener.handle = false

/-- A history tells how the listeners of a deed were seen off, but for those that are left. -/
def SeenOff
    (history : List (Deed σ ρ))
    (taking : Deed σ ρ)
    (listeners left : List Listener) : Prop :=
  ∃ earlier dismissal later,
    history = earlier ++ dismissal :: later ∧
      Farewell taking listeners left earlier dismissal later

namespace SeenOff

variable
  {history : List (Deed σ ρ)}
  {taking : Deed σ ρ}
  {listeners left : List Listener}

/-- The listeners are told to drain. -/
theorem dismissed
    {dismissal : Deed σ ρ}
    (before : taking ∈ history)
    (actor : dismissal.actor = taking.actor)
    (drains :
      dismissal.turn.host.network =
        setStages .draining listeners dismissal.before.network) :
    SeenOff (history ++ [dismissal]) taking listeners listeners :=
  ⟨history, dismissal, [], rfl,
    { before, actor, drains, closed := fun _ member => .inl member }⟩

/-- What was seen stays seen. -/
theorem snoc
    (seen : SeenOff history taking listeners left)
    (deed : Deed σ ρ) :
    SeenOff (history ++ [deed]) taking listeners left := by
  obtain ⟨earlier, dismissal, later, rfl, farewell⟩ := seen
  refine ⟨earlier, dismissal, later ++ [deed], by simp,
    { farewell with closed := ?_ }⟩
  intro listener member
  refine (farewell.closed listener member).imp_right ?_
  rintro ⟨sight, present, mine, closed⟩
  exact ⟨sight, List.mem_append_left _ present, mine, closed⟩

/-- More may be left. -/
theorem mono
    {more : List Listener}
    (seen : SeenOff history taking listeners left)
    (within : left ⊆ more) :
    SeenOff history taking listeners more := by
  obtain ⟨earlier, dismissal, later, shape, farewell⟩ := seen
  refine ⟨earlier, dismissal, later, shape,
    { farewell with closed := ?_ }⟩
  intro listener member
  exact (farewell.closed listener member).imp_left (within ·)

/-- The actor sees that the first of those that are left is closed. -/
theorem sees
    {first : Listener}
    {rest : List Listener}
    (seen : SeenOff history taking listeners (first :: rest))
    {deed : Deed σ ρ}
    (mine : deed.actor = taking.actor)
    (closed : deed.before.network.isOpen first.handle = false) :
    SeenOff (history ++ [deed]) taking listeners rest := by
  obtain ⟨earlier, dismissal, later, rfl, farewell⟩ := seen
  refine ⟨earlier, dismissal, later ++ [deed], by simp,
    { farewell with closed := ?_ }⟩
  have last : deed ∈ later ++ [deed] :=
    List.mem_append_right _ (List.mem_singleton_self deed)
  intro listener member
  rcases farewell.closed listener member with
    waits | ⟨sight, present, his, shut⟩
  · rcases List.mem_cons.mp waits with rfl | waits
    · exact .inr ⟨deed, last, mine, closed⟩
    · exact .inl waits
  · exact .inr ⟨sight, List.mem_append_left _ present, his, shut⟩

end SeenOff

namespace Scene

variable
  {blueprint : Blueprint σ ρ}
  {scene : Scene σ ρ}

/-- Whatever an actor has taken it is about to dismiss, or waits for, or has seen off. -/
def SeesOff
    (scene : Scene σ ρ)
    (actor : Nat)
    (errand : Errand σ) : Prop :=
  ∀ taking ∈ scene.history,
    taking.actor = actor →
    ∀ listeners,
      taking.taken? = some listeners →
        listeners = [] ∨
          errand.job.dismissing? = some listeners ∨
          SeenOff scene.history taking listeners errand.job.awaiting

/-- An actor that has done nothing has taken nothing. -/
theorem SeesOff.of_absent
    {actor : Nat}
    {errand : Errand σ}
    (absent : ∀ deed ∈ scene.history, deed.actor ≠ actor) :
    scene.SeesOff actor errand :=
  fun taking member mine => absurd mine (absent taking member)

/-- What others do makes no difference. -/
theorem SeesOff.stand
    {actor other : Nat}
    {acting errand : Errand σ}
    {turn : Turn σ ρ}
    (sees : scene.SeesOff other errand)
    (different : other ≠ actor) :
    (scene.turned actor acting turn).SeesOff other errand := by
  intro taking member mine listeners taken
  rcases List.mem_append.mp member with earlier | last
  · rcases sees taking earlier mine listeners taken with
      none | dismissing | seen
    · exact .inl none
    · exact .inr (.inl dismissing)
    · exact .inr (.inr (seen.snoc _))
  · rw [List.mem_singleton.mp last] at mine
    exact absurd mine.symm different

/-- What an actor has taken before it goes on to see off. -/
theorem SeesOff.act
    {actor : Nat}
    {errand : Errand σ}
    {turn : Turn σ ρ}
    (sees : scene.SeesOff actor errand)
    (stepped : blueprint.step scene.host errand.job = some turn)
    {taking : Deed σ ρ}
    (earlier : taking ∈ scene.history)
    (mine : taking.actor = actor)
    {listeners : List Listener}
    (taken : taking.taken? = some listeners) :
    listeners = [] ∨
      turn.next.dismissing? = some listeners ∨
      SeenOff (scene.turned actor errand turn).history taking listeners
        turn.next.awaiting := by
  let deed : Deed σ ρ :=
    { actor, request := errand.request, job := errand.job,
      before := scene.host, turn }
  show _ ∨ _ ∨ SeenOff (scene.history ++ [deed]) _ _ _
  have before := sees taking earlier mine listeners taken
  have goesOn
      (free : errand.job.dismissing? = some listeners → listeners = [])
      (none : errand.job.awaiting = [])
      (next : turn.next.awaiting = []) :
      listeners = [] ∨
        turn.next.dismissing? = some listeners ∨
        SeenOff (scene.history ++ [deed]) taking listeners
          turn.next.awaiting := by
    rw [none] at before
    rw [next]
    rcases before with empty | dismissing | seen
    · exact .inl empty
    · exact .inl (free dismissing)
    · exact .inr (.inr (seen.snoc deed))
  have handling : Handling blueprint deed.before deed.job deed.turn :=
    Blueprint.handling_of_step stepped
  obtain ⟨request, job⟩ := errand
  cases handling with
  | idle listening network empty nothing unready own cleared =>
      exact
        goesOn (Job.eq_nil_of_dismissing? empty)
          (Job.awaiting_of_holding empty)
          (Job.awaiting_of_not_handles nothing)
  | opens opened network listening next
  | fails network listening next =>
      exact goesOn nofun rfl (by rw [show turn.next = _ from next]; rfl)
  | keeps network listening next =>
      refine goesOn nofun rfl ?_
      rcases next with next | next <;>
        rw [show turn.next = _ from next] <;>
          rfl
  | takes network listening next =>
      refine goesOn nofun rfl ?_
      rcases next with ⟨next, -⟩ | ⟨next, -⟩ <;>
        rw [show turn.next = _ from next]
      · exact Job.awaiting_of_not_handles (Job.handles_afterStop _)
      · rfl
  | dismisses network listening next =>
      rw [show turn.next = _ from next]
      rcases before with none | dismissing | seen
      · exact .inl none
      · cases dismissing
        exact .inr (.inr (.dismissed earlier mine.symm network))
      · exact .inr (.inr ((seen.snoc deed).mono (List.nil_subset _)))
  | ends finished same next =>
      rw [show turn.next = _ from next]
      rcases before with none | dismissing | seen
      · exact .inl none
      · cases dismissing
      · exact .inr (.inr (seen.sees mine.symm finished))

/-- What an actor takes it is about to dismiss. -/
theorem dismissing?_of_taken
    {deed : Deed σ ρ}
    {listeners : List Listener}
    (stepped : blueprint.step deed.before deed.job = some deed.turn)
    (taken : deed.taken? = some listeners) :
    listeners = [] ∨ deed.turn.next.dismissing? = some listeners := by
  by_cases takes : ∃ purpose, deed.job = .stop purpose .take
  · obtain ⟨purpose, takes⟩ := takes
    have found := Deed.taken?_of_take stepped takes
    rw [taken] at found
    have all : deed.before.listeners = listeners := by
      rw [Host.listeners, ← found]
      rfl
    rw [takes] at stepped
    rw [← Option.some.inj stepped, all]
    dsimp only
    split
    · next none =>
      exact .inl (List.isEmpty_iff.mp none)
    · exact .inr rfl
  · rw [Deed.taken?_eq_none stepped (not_exists.mp takes)] at taken
    cases taken

/-- In every reachable scene each job that took listeners sees them off. -/
theorem Reachable.seesOff
    (reachable : Reachable blueprint scene) :
    Each SeesOff scene := by
  refine reachable.each ?_ ?_ ?_ ?_ ?_ ?_
  · intro scene request reached
    refine .of_absent ?_
    intro deed member same
    have inside := reached.sound.present deed member
    omega
  · intro scene request actor errand sees
    exact sees
  · intro scene actor errand turn _ _ stepped sees taking member mine
      listeners taken
    rcases List.mem_append.mp member with earlier | last
    · exact sees.act stepped earlier mine taken
    · rw [List.mem_singleton.mp last] at taken
      refine (dismissing?_of_taken stepped taken).imp_right ?_
      exact .inl
  · intro scene actor acting turn other errand _ _ _ different _ sees
    exact sees.stand different
  · intro scene actor acting turn other reached inside absent
    refine .of_absent ?_
    intro deed member same
    rcases List.mem_append.mp member with earlier | last
    · have present := reached.sound.present deed earlier
      omega
    · rw [List.mem_singleton.mp last] at same
      dsimp only at same
      omega
  · intro scene surroundings actor errand sees
    exact sees

end Scene

end PluggableHost.Lifecycle
