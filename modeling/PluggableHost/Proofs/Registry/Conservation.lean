import Mathlib.Algebra.Ring.Nat
import PluggableHost.Proofs.Registry.Accounting

namespace PluggableHost.Registry

open PluggableHost.Observability List

/-!
# Conservation of registrations

Under every schedule the copies of an endpoint that the registry has accepted are
as many as those that were taken off the list, those that are on it, and those that
a task is about to put there.  Every task tells the registry of the copies that it
took off the list, of each once, in that order, and of nothing else.
-/

variable {ρ : Type}

/-- What a withdrawal that is done returned. -/
def Task.returned? : Task → Option Nat
  | .unregistered withdrawn => some withdrawn
  | _ => none

/-- The last value of two lists is that of the second one, where there is one. -/
theorem getLastD_append
    (earlier later : List Nat)
    (default : Nat) :
    (earlier ++ later).getLastD default =
      later.getLastD (earlier.getLastD default) := by
  rcases List.eq_nil_or_concat later with empty | ⟨others, last, shape⟩
  · rw [empty, List.append_nil]
    rfl
  · rw [shape, List.concat_eq_append, ← List.append_assoc,
      List.getLastD_concat, List.getLastD_concat]

namespace Task

variable
  {client : Option (RegistryClient ρ)}
  {registrar : Registrar ρ}
  {task : Task}

/-- A task that has an endpoint in hand tells of it in its next step. -/
theorem tells_next
    (held : task.untold ≠ [])
    (registered : client = none → task.untold = []) :
    ∃ step,
      task.step client registrar = some step ∧
      withdrawals step.journal = task.untold := by
  cases task with
  | tell count endpoint left =>
      cases client with
      | none =>
          exact absurd (registered rfl) held
      | some client =>
          have told := Registrar.telling_withdraw client endpoint registrar
          exact ⟨_, rfl, told.withdrawn⟩
  | _ =>
      exact absurd rfl held

/-- What a task has withdrawn when it is done, it returns. -/
theorem withdrawn_of_done
    (done : task.step client registrar = none) :
    task.withdrawn = task.returned?.getD 0 := by
  cases task with
  | registered outcome | unregistered count =>
      rfl
  | resolve settings probe | tell count endpoint left =>
      cases client <;>
        cases done
  | offer published left =>
      cases left with
      | nil =>
          cases done
      | cons endpoint rest =>
          cases client <;>
            cases done
  | untrack count left =>
      cases left <;>
        cases done
  | _ =>
      cases done

/-- What tasks that are done have withdrawn, they have returned. -/
theorem sum_returned
    {tasks : List Task}
    (done : ∀ task ∈ tasks, task.step client registrar = none) :
    (tasks.filterMap returned?).sum = (tasks.map withdrawn).sum := by
  induction tasks with
  | nil =>
      rfl
  | cons task rest inductionHypothesis =>
      have others :=
        inductionHypothesis fun task found =>
          done task (List.mem_cons_of_mem _ found)
      have counted := withdrawn_of_done (done task List.mem_cons_self)
      rw [List.map_cons, List.sum_cons, counted, ← others]
      cases returned : task.returned? with
      | none =>
          rw [List.filterMap_cons_none returned, Option.getD_none,
            Nat.zero_add]
      | some count =>
          rw [List.filterMap_cons_some returned, List.sum_cons,
            Option.getD_some]

end Task

namespace Office

/-- What is left of an operation.  Nothing is left where nothing was ordered. -/
def taskOf
    (office : Office ρ)
    (actor : Nat) : Task :=
  office.tasks[actor]?.getD (.unregistered 0)

/-- The steps of one task, in order. -/
def actsOf
    (office : Office ρ)
    (actor : Nat) : List (Act ρ) :=
  office.history.filter fun act => act.actor == actor

/-- The endpoints that the registry accepted, in order. -/
def accepted
    (client : Option (RegistryClient ρ))
    (office : Office ρ) : List Endpoint :=
  office.history.flatMap (Act.accepted client)

/-- The copies that were put on the list, in order. -/
def added (office : Office ρ) : List Endpoint :=
  office.history.flatMap Act.added

/-- The copies that were taken off the list, in order. -/
def removed (office : Office ρ) : List Endpoint :=
  office.history.flatMap Act.removed

/-- The endpoints that were accepted and are not on the list yet. -/
def unlisted (office : Office ρ) : List Endpoint :=
  office.tasks.flatMap Task.unlisted

/-- The endpoints that were taken off the list and not told of yet. -/
def untold (office : Office ρ) : List Endpoint :=
  office.tasks.flatMap Task.untold

variable
  {client : Option (RegistryClient ρ)}
  {office : Office ρ}
  {order : Order}
  {actor : Nat}
  {task : Task}
  {step : Step ρ Task}

/-- A new task holds nothing that nobody would hold. -/
theorem hands_ordered
    {α : Type}
    (hands : Task → α)
    (empty : hands order.task = hands (.unregistered 0))
    (actor : Nat) :
    hands ((office.ordered order).taskOf actor) =
      hands (office.taskOf actor) := by
  unfold taskOf ordered
  rcases Nat.lt_trichotomy actor office.tasks.length with
    before | here | beyond
  · rw [List.getElem?_append_left before]
  · subst here
    simpa using empty
  · have beyondAll :
        (office.tasks ++ [order.task]).length ≤ actor := by
      rw [List.length_append, List.length_singleton]
      exact beyond
    rw [List.getElem?_eq_none beyondAll,
      List.getElem?_eq_none (Nat.le_of_lt beyond)]

/-- The task of an actor is the one found at its place. -/
theorem taskOf_eq
    (found : office.tasks[actor]? = some task) :
    office.taskOf actor = task := by
  rw [taskOf, found]
  rfl

/-- An actor that steps goes on to what is left of its task. -/
theorem taskOf_stepped_self
    (found : office.tasks[actor]? = some task) :
    (office.stepped actor task step).taskOf actor = step.value := by
  have inside : actor < office.tasks.length :=
    (List.getElem?_eq_some_iff.mp found).1
  simp [taskOf, stepped, inside]

/-- A step leaves the tasks of the others alone. -/
theorem taskOf_stepped_of_ne
    {other : Nat}
    (apart : other ≠ actor) :
    (office.stepped actor task step).taskOf other =
      office.taskOf other := by
  simp [taskOf, stepped, List.getElem?_set_ne apart.symm]

/-- A step is one more act of the actor that takes it. -/
theorem actsOf_stepped_self
    (office : Office ρ)
    (actor : Nat)
    (task : Task)
    (step : Step ρ Task) :
    (office.stepped actor task step).actsOf actor =
      office.actsOf actor ++ [⟨actor, task, office.registrar, step⟩] := by
  simp [actsOf, stepped]

/-- A step is no act of anybody else. -/
theorem actsOf_stepped_of_ne
    {other : Nat}
    (apart : other ≠ actor) :
    (office.stepped actor task step).actsOf other =
      office.actsOf other := by
  simp [actsOf, stepped, apart.symm]

/-- A step changes what one task holds, and nothing else that tasks hold. -/
theorem sum_stepped
    (found : office.tasks[actor]? = some task)
    (step : Step ρ Task)
    (measure : Task → Nat) :
    ((office.stepped actor task step).tasks.map measure).sum +
        measure task =
      (office.tasks.map measure).sum + measure step.value := by
  obtain ⟨earlier, later, before, -, after⟩ := tasks_split found step
  rw [before, after]
  simp only [List.map_append, List.map_cons, List.sum_append,
    List.sum_cons]
  omega

/-- A step changes what the tasks hold in hand by what its own task does. -/
theorem count_stepped
    (found : office.tasks[actor]? = some task)
    (step : Step ρ Task)
    (hands : Task → List Endpoint)
    (endpoint : Endpoint) :
    ((office.stepped actor task step).tasks.flatMap hands).count
          endpoint +
        (hands task).count endpoint =
      (office.tasks.flatMap hands).count endpoint +
        (hands step.value).count endpoint := by
  rw [List.count_flatMap, List.count_flatMap]
  exact sum_stepped found step fun task => (hands task).count endpoint

/-- What all steps together tell of, and of what each task is to tell. -/
structure Balanced
    (client : Option (RegistryClient ρ))
    (office : Office ρ) : Prop where
  kept :
    ∀ endpoint,
      (office.accepted client).count endpoint =
        office.removed.count endpoint +
          office.registrar.tracked.count endpoint +
          office.unlisted.count endpoint
  told :
    ∀ endpoint,
      office.removed.count endpoint =
        (withdrawals office.journal).count endpoint +
          office.untold.count endpoint
  toldInTurn :
    ∀ actor,
      (office.actsOf actor).flatMap Act.removed =
        (office.actsOf actor).flatMap Act.told ++
          (office.taskOf actor).untold
  counted :
    (office.tasks.map Task.withdrawn).sum =
      (withdrawals office.journal).length
  countedInTurn :
    ∀ actor,
      (office.taskOf actor).withdrawn =
        ((office.actsOf actor).flatMap Act.told).length
  gauged :
    (gauges office.journal).getLastD 0 = office.registrar.tracked.length
  inOrder :
    office.registrar.tracked <+ office.added

namespace Balanced

/-- Where there is no registry, nothing is accepted, so nobody has anything to tell. -/
theorem untold_eq_nil
    (balanced : office.Balanced client)
    (found : office.tasks[actor]? = some task)
    (unregistered : client = none) :
    task.untold = [] := by
  subst unregistered
  have noneAccepted : office.accepted none = [] := by
    simp [accepted, Act.accepted]
  apply List.eq_nil_iff_forall_not_mem.mpr
  intro endpoint held
  have told : 0 < office.untold.count endpoint := by
    apply List.count_pos_iff.mpr
    exact List.mem_flatMap.mpr
      ⟨task, List.mem_of_getElem? found, held⟩
  have kept := balanced.kept endpoint
  have removed := balanced.told endpoint
  rw [noneAccepted, List.count_nil] at kept
  omega

/-- A new order changes no book. -/
theorem ordered
    (balanced : office.Balanced client)
    (order : Order) :
    (office.ordered order).Balanced client := by
  have unlisted : order.task.unlisted = [] := by
    cases order <;> rfl
  have untold : order.task.untold = [] := by
    cases order <;> rfl
  have withdrawn : order.task.withdrawn = 0 := by
    cases order <;> rfl
  constructor
  · intro endpoint
    have same :
        (office.ordered order).unlisted = office.unlisted := by
      simp [Office.unlisted, Office.ordered, unlisted]
    rw [same]
    exact balanced.kept endpoint
  · intro endpoint
    have same : (office.ordered order).untold = office.untold := by
      simp [Office.untold, Office.ordered, untold]
    rw [same]
    exact balanced.told endpoint
  · intro actor
    rw [hands_ordered Task.untold untold]
    exact balanced.toldInTurn actor
  · have same :
        ((office.ordered order).tasks.map Task.withdrawn).sum =
          (office.tasks.map Task.withdrawn).sum := by
      simp [Office.ordered, withdrawn]
    rw [same]
    exact balanced.counted
  · intro actor
    rw [hands_ordered Task.withdrawn withdrawn]
    exact balanced.countedInTurn actor
  · exact balanced.gauged
  · exact balanced.inOrder

/-- A step that keeps the books leaves them balanced. -/
theorem stepped
    (balanced : office.Balanced client)
    (found : office.tasks[actor]? = some task)
    (books :
      Act.Books client ⟨actor, task, office.registrar, step⟩) :
    (office.stepped actor task step).Balanced client := by
  have journal := journal_stepped office actor task step
  constructor
  · intro endpoint
    have kept := balanced.kept endpoint
    have hands := count_stepped found step Task.unlisted endpoint
    have accepted := congrArg (List.count endpoint) books.accepted
    have copies :
        (step.registrar.tracked.diff office.registrar.tracked).count
              endpoint +
            office.registrar.tracked.count endpoint =
          (office.registrar.tracked.diff step.registrar.tracked).count
              endpoint +
            step.registrar.tracked.count endpoint := by
      rw [List.count_diff, List.count_diff]
      omega
    simp only [Office.accepted, Office.removed, Office.unlisted,
      Office.stepped, List.flatMap_append, List.flatMap_singleton,
      List.count_append, Act.added, Act.removed] at *
    omega
  · intro endpoint
    have told := balanced.told endpoint
    have hands := count_stepped found step Task.untold endpoint
    have removed := congrArg (List.count endpoint) books.removed
    rw [journal, withdrawals_append]
    simp only [Office.removed, Office.untold, Office.stepped,
      List.flatMap_append, List.flatMap_singleton, List.count_append,
      Act.told] at *
    omega
  · intro other
    by_cases same : other = actor
    · subst same
      have removed := books.removed
      have before := balanced.toldInTurn other
      rw [taskOf_eq found] at before
      rw [actsOf_stepped_self, taskOf_stepped_self found,
        List.flatMap_append, List.flatMap_append, before]
      simpa using removed
    · rw [actsOf_stepped_of_ne same, taskOf_stepped_of_ne same]
      exact balanced.toldInTurn other
  · have hands := sum_stepped found step Task.withdrawn
    have before := balanced.counted
    have counted := books.counted
    rw [journal, withdrawals_append, List.length_append]
    simp only [Act.told] at counted
    omega
  · intro other
    by_cases same : other = actor
    · subst same
      have counted := books.counted
      have before := balanced.countedInTurn other
      rw [taskOf_eq found] at before
      rw [actsOf_stepped_self, taskOf_stepped_self found,
        List.flatMap_append, List.length_append, ← before]
      simpa using counted
    · rw [actsOf_stepped_of_ne same, taskOf_stepped_of_ne same]
      exact balanced.countedInTurn other
  · have gauged := books.gauged
    rw [← balanced.gauged] at gauged
    rw [journal, gauges_append, getLastD_append]
    exact gauged
  · have whole :
        (office.stepped actor task step).added =
          office.added ++
            step.registrar.tracked.diff office.registrar.tracked := by
      simp [Office.added, Office.stepped, Act.added]
    rw [whole]
    exact books.inOrder.trans
      (balanced.inOrder.append (List.Sublist.refl _))

/-- The books of a new registrar. -/
theorem opening
    (client : Option (RegistryClient ρ))
    (registry : ρ)
    (switches : SwitchBoard) :
    (Office.opening registry switches).Balanced client := by
  constructor <;>
    simp [Office.opening, Office.accepted, Office.removed, Office.unlisted,
      Office.untold, Office.added, Office.journal, actsOf, taskOf,
      Task.untold, Task.withdrawn, gauges]

end Balanced

/-- The books are balanced under every schedule. -/
theorem balanced_run
    (client : Option (RegistryClient ρ))
    (registry : ρ)
    (switches : SwitchBoard)
    (schedule : List (Occasion ρ)) :
    ((opening registry switches).run client schedule).Balanced client := by
  refine run_induct ?_ ?_ ?_ (.opening client registry switches) schedule
  · intro office order balanced
    exact balanced.ordered order
  · intro office actor task step found stepped balanced
    exact balanced.stepped found
      (Act.books_of_step stepped (balanced.untold_eq_nil found))
  · intro office registry switches balanced
    exact
      ⟨balanced.kept, balanced.told, balanced.toldInTurn, balanced.counted,
        balanced.countedInTurn, balanced.gauged, balanced.inOrder⟩

/-- The accounts of an office: where every copy of an endpoint went. -/
structure Accounts
    (client : Option (RegistryClient ρ))
    (office : Office ρ) : Prop where
  /-- A copy that was accepted was taken off the list, or is on it, or comes there. -/
  kept :
    ∀ endpoint,
      (office.accepted client).count endpoint =
        office.removed.count endpoint +
          office.registrar.tracked.count endpoint +
          office.unlisted.count endpoint
  /-- Every task has told of what it took off the list, but for what it tells next. -/
  told :
    ∀ actor,
      (office.actsOf actor).flatMap Act.removed =
        (office.actsOf actor).flatMap Act.told ++
          (office.taskOf actor).untold
  /-- Nothing comes between taking an endpoint off the list and telling of it. -/
  promptly :
    ∀ actor,
      (office.taskOf actor).untold ≠ [] →
        ∃ step,
          (office.taskOf actor).step client office.registrar = some step ∧
          withdrawals step.journal = (office.taskOf actor).untold
  /-- The registry is told as often as copies were taken off the list, and not yet told. -/
  owed :
    ∀ endpoint,
      office.removed.count endpoint =
        (withdrawals office.journal).count endpoint +
          office.untold.count endpoint
  /-- No registration is withdrawn twice. -/
  once :
    ∀ endpoint,
      (withdrawals office.journal).count endpoint ≤
        (office.accepted client).count endpoint
  /-- The registry is never told of an endpoint that it never accepted. -/
  known :
    ∀ endpoint ∈ withdrawals office.journal,
      endpoint ∈ office.accepted client
  /-- A withdrawal returns the number of its calls. -/
  returned :
    ∀ actor count,
      office.tasks[actor]? = some (.unregistered count) →
        count = ((office.actsOf actor).flatMap Act.told).length
  /-- What all withdrawals returned is the number of calls, once all have returned. -/
  summed :
    (∀ task ∈ office.tasks, task.step client office.registrar = none) →
      (office.tasks.filterMap Task.returned?).sum =
        (withdrawals office.journal).length
  /-- The gauge reads as the number of endpoints on the list. -/
  gauged :
    ((Metric.readings (office.journal.filterMap Entry.metric?)).lookup
        (Metric.registeredEndpoints 0).name).getD 0 =
      office.registrar.tracked.length
  /-- Endpoints are listed in the order in which they were put on the list. -/
  inOrder :
    office.registrar.tracked <+ office.added

/-- Whatever operations overlap, every registration is accounted for. -/
theorem accountsForAll
    (client : Option (RegistryClient ρ))
    (registry : ρ)
    (switches : SwitchBoard)
    (schedule : List (Occasion ρ)) :
    ((opening registry switches).run client schedule).Accounts client := by
  have balanced := balanced_run client registry switches schedule
  generalize (opening registry switches).run client schedule = office
    at balanced
  have once (endpoint : Endpoint) :
      (withdrawals office.journal).count endpoint ≤
        (office.accepted client).count endpoint := by
    have kept := balanced.kept endpoint
    have told := balanced.told endpoint
    omega
  constructor
  case kept => exact balanced.kept
  case told => exact balanced.toldInTurn
  case owed => exact balanced.told
  case once => exact once
  case inOrder => exact balanced.inOrder
  case promptly =>
    intro actor held
    apply Task.tells_next held
    intro unregistered
    cases found : office.tasks[actor]? with
    | none =>
        rw [taskOf, found]
        rfl
    | some task =>
        rw [taskOf_eq found]
        exact balanced.untold_eq_nil found unregistered
  case known =>
    intro endpoint told
    have telling : 0 < (withdrawals office.journal).count endpoint :=
      List.count_pos_iff.mpr told
    exact List.count_pos_iff.mp (Nat.lt_of_lt_of_le telling (once endpoint))
  case returned =>
    intro actor count found
    have counted := balanced.countedInTurn actor
    rwa [taskOf_eq found] at counted
  case summed =>
    intro done
    rw [Task.sum_returned done]
    exact balanced.counted
  case gauged =>
    rw [reading_registeredEndpoints]
    exact balanced.gauged

end Office

end PluggableHost.Registry
