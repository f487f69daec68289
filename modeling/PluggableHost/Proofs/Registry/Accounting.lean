import Mathlib.Data.List.Count
import PluggableHost.Proofs.Observability.Reading
import PluggableHost.Proofs.Registry.Office
import PluggableHost.Proofs.Registry.Telling

namespace PluggableHost.Registry

open PluggableHost.Observability List

/-!
# Accounting for registrations

Whatever operations overlap in an office, and whatever the registry refuses, every
copy of an endpoint that the registry has accepted is in one place: in the hands of
the task that is to put it on the list, on the list, or taken off the list.  Whoever
takes a copy off the list tells the registry of it, once.  Each step keeps these
books, and so does every schedule.
-/

variable {ρ : Type}

namespace Act

/-- The endpoints that the registry accepted in this step. -/
def accepted
    (client : Option (RegistryClient ρ))
    (act : Act ρ) : List Endpoint :=
  (offers act.step.journal).filter fun endpoint =>
    client.any fun client =>
      (client.register act.before.registry endpoint).1.isOk

/-- The copies that this step put on the list. -/
def added (act : Act ρ) : List Endpoint :=
  act.step.registrar.tracked.diff act.before.tracked

/-- The copies that this step took off the list. -/
def removed (act : Act ρ) : List Endpoint :=
  act.before.tracked.diff act.step.registrar.tracked

/-- The endpoints that this step told the registry to forget. -/
def told (act : Act ρ) : List Endpoint :=
  withdrawals act.step.journal

end Act

namespace Task

/-- The endpoint that was accepted and is not on the list yet. -/
def unlisted : Task → List Endpoint
  | track _ endpoint _ => [endpoint]
  | _ => []

/-- The endpoint that was taken off the list, and of which the registry is told next. -/
def untold : Task → List Endpoint
  | tell _ endpoint _ => [endpoint]
  | _ => []

/-- How many endpoints were withdrawn so far; what a withdrawal returns in the end. -/
def withdrawn : Task → Nat
  | untrack withdrawn _ | tell withdrawn _ _ | unregistered withdrawn =>
      withdrawn
  | _ => 0

end Task

/-- What is left of a whole when a part is taken away. -/
theorem diff_perm_of_perm_append
    {whole part rest : List Endpoint}
    (split : whole ~ part ++ rest) :
    whole.diff part ~ rest := by
  apply List.perm_iff_count.mpr
  intro endpoint
  have copies := split.count_eq endpoint
  rw [List.count_append] at copies
  rw [List.count_diff, copies, Nat.add_sub_cancel_left]

/-- Nothing is left of a part when the whole is taken away. -/
theorem diff_of_sublist
    {part whole : List Endpoint}
    (within : part <+ whole) :
    part.diff whole = [] := by
  apply List.perm_nil.mp
  apply List.perm_iff_count.mpr
  intro endpoint
  have fewer : part.count endpoint ≤ whole.count endpoint :=
    within.count_le endpoint
  rw [List.count_diff, Nat.sub_eq_zero_of_le fewer, List.count_nil]

namespace Act

/-- What a step does to the books. -/
structure Books
    (client : Option (RegistryClient ρ))
    (act : Act ρ) : Prop where
  accepted :
    act.task.unlisted ++ act.accepted client =
      act.added ++ act.step.value.unlisted
  removed :
    act.task.untold ++ act.removed =
      act.told ++ act.step.value.untold
  counted :
    act.step.value.withdrawn = act.task.withdrawn + act.told.length
  gauged :
    (gauges act.step.journal).getLastD act.before.tracked.length =
      act.step.registrar.tracked.length
  inOrder :
    act.step.registrar.tracked <+ act.before.tracked ++ act.added

/-- The books of a step that leaves the list alone. -/
theorem books_of_same
    {client : Option (RegistryClient ρ)}
    {act : Act ρ}
    (same : act.step.registrar.tracked = act.before.tracked)
    (ungauged : gauges act.step.journal = [])
    (accepted :
      act.task.unlisted ++ act.accepted client = act.step.value.unlisted)
    (told : act.task.untold = act.told ++ act.step.value.untold)
    (counted :
      act.step.value.withdrawn = act.task.withdrawn + act.told.length) :
    act.Books client := by
  have noneAdded : act.added = [] := by
    rw [added, same, diff_of_sublist (List.Sublist.refl _)]
  have noneRemoved : act.removed = [] := by
    rw [removed, same, diff_of_sublist (List.Sublist.refl _)]
  constructor
  · rw [accepted, noneAdded, List.nil_append]
  · rw [noneRemoved, List.append_nil, told]
  · exact counted
  · rw [ungauged, same, List.getLastD_nil]
  · rw [same]
    exact List.sublist_append_left _ _

/-- The books of a step that writes events only and has nothing in hand. -/
theorem books_of_plain
    {client : Option (RegistryClient ρ)}
    {act : Act ρ}
    (same : act.step.registrar.tracked = act.before.tracked)
    (silent :
      offers act.step.journal = [] ∧
        withdrawals act.step.journal = [] ∧
        gauges act.step.journal = [])
    (unlisted : act.task.unlisted = [] ∧ act.step.value.unlisted = [])
    (untold : act.task.untold = [] ∧ act.step.value.untold = [])
    (withdrawn : act.step.value.withdrawn = act.task.withdrawn) :
    act.Books client := by
  have noneTold : act.told = [] := silent.2.1
  apply books_of_same same silent.2.2
  · rw [Act.accepted, silent.1, unlisted.1, unlisted.2]
    rfl
  · rw [noneTold, untold.1, untold.2]
    rfl
  · rw [noneTold, withdrawn]
    rfl

variable
  {client : Option (RegistryClient ρ)}
  {actor : Nat}
  {registrar : Registrar ρ}
  {task : Task}
  {step : Step ρ Task}

/-- Looking for an address is told in an event at most. -/
theorem silent_reachableAddress
    (probe : Net.IpAddress → Option Net.IpAddress)
    (ip : String) :
    let journal := (Registrar.reachableAddress probe ip).2
    offers journal = [] ∧ withdrawals journal = [] ∧
      gauges journal = [] := by
  unfold Registrar.reachableAddress
  dsimp only
  split
  · exact ⟨rfl, rfl, rfl⟩
  · split <;>
      exact ⟨rfl, rfl, rfl⟩

/-- An endpoint that is offered is accepted, and in hand, or it is refused. -/
theorem books_of_offer
    {published left : List Endpoint}
    {endpoint : Endpoint}
    (stepped :
      (Task.offer published (endpoint :: left)).step client registrar =
        some step) :
    Books client
      ⟨actor, .offer published (endpoint :: left), registrar, step⟩ := by
  cases client with
  | none =>
      cases stepped
      exact books_of_plain rfl ⟨rfl, rfl, rfl⟩ ⟨rfl, rfl⟩ ⟨rfl, rfl⟩ rfl
  | some client =>
      rcases answered : client.register registrar.registry endpoint with
        ⟨refusal | accepted, registry⟩ <;>
        simp only [Task.step, Registrar.offer, answered,
          Option.some.injEq] at stepped <;>
        subst stepped <;>
        refine books_of_same rfl rfl ?_ rfl rfl <;>
        simp [Act.accepted, answered, Task.unlisted, registrationEvent,
          Except.isOk, Except.toBool]

/-- An endpoint in hand is put at the end of the list. -/
theorem books_of_track
    {published left : List Endpoint}
    {endpoint : Endpoint}
    (stepped :
      (Task.track published endpoint left).step client registrar =
        some step) :
    Books client
      ⟨actor, .track published endpoint left, registrar, step⟩ := by
  cases stepped
  have added :
      (registrar.tracked ++ [endpoint]).diff registrar.tracked =
        [endpoint] :=
    List.perm_singleton.mp (diff_perm_of_perm_append (.refl _))
  have removed :
      registrar.tracked.diff (registrar.tracked ++ [endpoint]) = [] :=
    diff_of_sublist (List.sublist_append_left _ _)
  constructor
  · simp [Act.accepted, Act.added, Registrar.track, Task.unlisted,
      registrationEvent, added]
  · exact removed
  · rfl
  · rfl
  · simp [Act.added, Registrar.track, added]

/-- An endpoint that is on the list is taken off it, and then in hand. -/
theorem books_of_untrack
    {count : Nat}
    {left : List Endpoint}
    {endpoint : Endpoint}
    (stepped :
      (Task.untrack count (endpoint :: left)).step client registrar =
        some step) :
    Books client
      ⟨actor, .untrack count (endpoint :: left), registrar, step⟩ := by
  simp only [Task.step, Option.some.injEq] at stepped
  subst stepped
  have told := Registrar.telling_untrack endpoint registrar
  by_cases listed : endpoint ∈ registrar.tracked
  · have value : (registrar.untrack endpoint).value = true := by
      simp [Registrar.untrack, listed]
    have removed :
        registrar.tracked.diff (registrar.tracked.erase endpoint) =
          [endpoint] :=
      List.perm_singleton.mp
        (diff_perm_of_perm_append
          ((List.perm_cons_erase listed).trans
            (List.perm_append_singleton _ _).symm))
    have added :
        (registrar.tracked.erase endpoint).diff registrar.tracked = [] :=
      diff_of_sublist List.erase_sublist
    constructor
    · simp [Act.accepted, Act.added, Task.unlisted, value, told.offered,
        told.tracked, added]
    · simp [Act.removed, Act.told, Task.untold, value, told.withdrawn,
        told.tracked, removed]
    · simp [Act.told, Task.withdrawn, value, told.withdrawn]
    · simp [Registrar.untrack, listed, gauges, Entry.gauged?]
    · simp only [told.tracked]
      exact List.erase_sublist.trans (List.sublist_append_left _ _)
  · have value : (registrar.untrack endpoint).value = false := by
      simp [Registrar.untrack, listed]
    refine books_of_plain ?_ ⟨told.offered, told.withdrawn, ?_⟩
      ⟨rfl, ?_⟩ ⟨rfl, ?_⟩ ?_
    · exact told.tracked.trans (List.erase_of_not_mem listed)
    · simp [Registrar.untrack, listed, gauges, registrationEvent,
        Entry.log, Entry.gauged?]
    · simp [value, Task.unlisted]
    · simp [value, Task.untold]
    · simp [value, Task.withdrawn]

/-- The registry is told of an endpoint in hand, and the endpoint is counted. -/
theorem books_of_tell
    {client : RegistryClient ρ}
    {count : Nat}
    {left : List Endpoint}
    {endpoint : Endpoint}
    (stepped :
      (Task.tell count endpoint left).step (some client) registrar =
        some step) :
    Books (some client)
      ⟨actor, .tell count endpoint left, registrar, step⟩ := by
  simp only [Task.step, Option.some.injEq] at stepped
  subst stepped
  have told := Registrar.telling_withdraw client endpoint registrar
  apply books_of_same
  · exact told.tracked
  · rcases answered : client.unregister registrar.registry endpoint with
      ⟨refusal | accepted, registry⟩ <;>
      simp only [Registrar.withdraw, answered] <;>
      rfl
  · simp [Act.accepted, Task.unlisted, told.offered]
  · simp [Act.told, Task.untold, told.withdrawn]
  · simp [Act.told, Task.withdrawn, told.withdrawn]

/-- Every step keeps the books, if nobody has endpoints in hand where there is no registry. -/
theorem books_of_step
    (stepped : task.step client registrar = some step)
    (registered : client = none → task.untold = []) :
    Books client ⟨actor, task, registrar, step⟩ := by
  cases task with
  | resolve settings probe =>
      cases client with
      | none =>
          cases stepped
          exact books_of_plain rfl ⟨rfl, rfl, rfl⟩ ⟨rfl, rfl⟩ ⟨rfl, rfl⟩ rfl
      | some client =>
          cases stepped
          exact books_of_plain rfl
            (silent_reachableAddress probe settings.ip) ⟨rfl, rfl⟩
            ⟨rfl, rfl⟩ rfl
  | offer published left =>
      cases left with
      | nil =>
          cases stepped
          exact books_of_plain rfl ⟨rfl, rfl, rfl⟩ ⟨rfl, rfl⟩ ⟨rfl, rfl⟩ rfl
      | cons endpoint rest =>
          exact books_of_offer stepped
  | track published endpoint left =>
      exact books_of_track stepped
  | untrack count left =>
      cases left with
      | nil =>
          cases stepped
          exact books_of_plain rfl ⟨rfl, rfl, rfl⟩ ⟨rfl, rfl⟩ ⟨rfl, rfl⟩ rfl
      | cons endpoint rest =>
          exact books_of_untrack stepped
  | tell count endpoint left =>
      cases client with
      | none =>
          exact absurd (registered rfl) (List.cons_ne_nil _ _)
      | some client =>
          exact books_of_tell stepped
  | conclude published | copyList =>
      cases stepped
      exact books_of_plain rfl ⟨rfl, rfl, rfl⟩ ⟨rfl, rfl⟩ ⟨rfl, rfl⟩ rfl
  | registered outcome | unregistered count =>
      cases stepped

end Act

end PluggableHost.Registry
