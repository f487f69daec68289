import PluggableHost.Registry.Registration

namespace PluggableHost.Registry

open PluggableHost.Config PluggableHost.Net PluggableHost.Observability

/-!
# Offices

Any number of operations on one registrar, under way at the same time.  A task is
what is left of an operation, known by the step that it takes next; each step is
one call of the registry, or one look at the list of tracked endpoints.  What
happens next in an office is free: somebody gives an order, one task takes one
step, or the registry changes elsewhere.  A task that nobody interferes with comes
to exactly what the operation comes to, which is the main result of the module.
-/

/-- What may be asked of a registrar. -/
inductive Order where
  /-- Publish one endpoint for each protocol that the settings enable. -/
  | register (settings : Settings) (probe : IpAddress → Option IpAddress)
  | unregister (endpoints : List Endpoint)
  | unregisterAll

/--
What is left of an operation.

A registration goes through its endpoints, some of which are left; a withdrawal counts
the endpoints that were withdrawn so far.
-/
inductive Task where
  | resolve (settings : Settings) (probe : IpAddress → Option IpAddress)
  | offer (published left : List Endpoint)
  | track (published : List Endpoint) (endpoint : Endpoint) (left : List Endpoint)
  | conclude (published : List Endpoint)
  | registered (outcome : Except HostError Published)
  | copyList
  | untrack (withdrawn : Nat) (left : List Endpoint)
  | tell (withdrawn : Nat) (endpoint : Endpoint) (left : List Endpoint)
  | unregistered (withdrawn : Nat)

/-- The operation that carries out an order. -/
def Order.task : Order → Task
  | register settings probe => .resolve settings probe
  | unregister endpoints => .untrack 0 endpoints
  | unregisterAll => .copyList

variable {ρ : Type}

namespace Task

/-- The next step of a task, unless the task is done. -/
def step
    (client : Option (RegistryClient ρ))
    (registrar : Registrar ρ) : Task → Option (Step ρ Task)
  | resolve settings probe =>
      match client with
      | none =>
          some
            ⟨registered (.error .registryUnavailable), registrar,
              [Registrar.missingRegistry settings]⟩
      | some _ =>
          let (host, journal) :=
            Registrar.reachableAddress probe settings.ip
          let endpoints := Registrar.endpointsFor settings host
          some ⟨offer endpoints endpoints, registrar, journal⟩
  | offer published [] => some ⟨conclude published, registrar, []⟩
  | offer published (endpoint :: left) =>
      match client with
      | none =>
          some ⟨registered (.error .registryUnavailable), registrar, []⟩
      | some client =>
          let offered := registrar.offer client endpoint
          let next :=
            match offered.value with
            | .ok () => track published endpoint left
            | .error refusal => registered (.error (.registry refusal))
          some ⟨next, offered.registrar, offered.journal⟩
  | track published endpoint left =>
      let tracked := registrar.track endpoint
      some ⟨offer published left, tracked.registrar, tracked.journal⟩
  | conclude published =>
      some
        ⟨registered (.ok (published.foldl Published.add {})),
          registrar.markRegistered, []⟩
  | copyList => some ⟨untrack 0 registrar.tracked, registrar, []⟩
  | untrack withdrawn [] => some ⟨unregistered withdrawn, registrar, []⟩
  | untrack withdrawn (endpoint :: left) =>
      let untracked := registrar.untrack endpoint
      let next :=
        if untracked.value then tell withdrawn endpoint left
        else untrack withdrawn left
      some ⟨next, untracked.registrar, untracked.journal⟩
  | tell withdrawn endpoint left =>
      match client with
      | none => some ⟨untrack (withdrawn + 1) left, registrar, []⟩
      | some client =>
          let told := registrar.withdraw client endpoint
          some
            ⟨untrack (withdrawn + 1) left, told.registrar, told.journal⟩
  | registered _ => none
  | unregistered _ => none

/-- What a task comes to by some of its steps, when nobody interferes. -/
inductive Leads
    (client : Option (RegistryClient ρ)) :
    Registrar ρ → Task → Step ρ Task → Prop where
  | stay
      (registrar : Registrar ρ)
      (task : Task) :
      Leads client registrar task ⟨task, registrar, []⟩
  | go
      {registrar : Registrar ρ}
      {task : Task}
      {first last : Step ρ Task}
      (stepped : task.step client registrar = some first)
      (onwards : Leads client first.registrar first.value last) :
      Leads client registrar task
        ⟨last.value, last.registrar, first.journal ++ last.journal⟩

variable
  {client : Option (RegistryClient ρ)}
  {registrar : Registrar ρ}
  {task : Task}
  {first last : Step ρ Task}

/-- One step leads to where it goes. -/
theorem Leads.once
    (stepped : task.step client registrar = some first) :
    Leads client registrar task first := by
  have leads := Leads.go stepped (.stay first.registrar first.value)
  rwa [List.append_nil] at leads

/-- Steps follow each other. -/
theorem Leads.trans
    (early : Leads client registrar task first)
    (late : Leads client first.registrar first.value last) :
    Leads client registrar task
      ⟨last.value, last.registrar, first.journal ++ last.journal⟩ := by
  induction early with
  | stay registrar task =>
      exact late
  | go stepped onwards inductionHypothesis =>
      have whole := Leads.go stepped (inductionHypothesis late)
      rwa [← List.append_assoc] at whole

/-- Endpoints that are offered one by one are published as a whole. -/
theorem leads_offer
    (client : RegistryClient ρ)
    (registrar : Registrar ρ)
    (published left : List Endpoint) :
    let step := registrar.publishAll client left
    Leads (some client) registrar (offer published left)
      ⟨match step.value with
        | .ok () => conclude published
        | .error failure => registered (.error failure),
        step.registrar, step.journal⟩ := by
  induction left generalizing registrar with
  | nil =>
      exact .once rfl
  | cons endpoint rest inductionHypothesis =>
      rcases answered : client.register registrar.registry endpoint with
        ⟨refusal | accepted, registry⟩
      · apply Leads.once
        simp [step, Registrar.publishAll, Registrar.publish,
          Registrar.offer, answered]
      · have others :=
          inductionHypothesis
            { registrar with
              tracked := registrar.tracked ++ [endpoint]
              registry }
        have offered :
            (offer published (endpoint :: rest)).step (some client)
                registrar =
              some
                ⟨track published endpoint rest,
                  { registrar with registry },
                  [.call (.register endpoint)]⟩ := by
          simp [step, Registrar.offer, answered]
        have whole := Leads.go offered (.go rfl others)
        simpa [Registrar.publishAll, Registrar.publish,
          Registrar.offer, Registrar.track, answered] using whole

/-- Endpoints that are withdrawn one by one are withdrawn as a whole. -/
theorem leads_untrack
    (client : Option (RegistryClient ρ))
    (registrar : Registrar ρ)
    (withdrawn : Nat)
    (left : List Endpoint) :
    let step := registrar.unregister client left
    Leads client registrar (untrack withdrawn left)
      ⟨unregistered (withdrawn + step.value), step.registrar,
        step.journal⟩ := by
  induction left generalizing registrar withdrawn with
  | nil =>
      exact .once rfl
  | cons endpoint rest inductionHypothesis =>
      cases found : (registrar.untrack endpoint).value with
      | false =>
          have others :=
            inductionHypothesis (registrar.untrack endpoint).registrar
              withdrawn
          have skipped :
              (untrack withdrawn (endpoint :: rest)).step client
                  registrar =
                some
                  ⟨untrack withdrawn rest,
                    (registrar.untrack endpoint).registrar,
                    (registrar.untrack endpoint).journal⟩ := by
            simp [step, found]
          have whole := Leads.go skipped others
          simpa [Registrar.unregister, Registrar.unregisterOne, found]
            using whole
      | true =>
          have taken :
              (untrack withdrawn (endpoint :: rest)).step client
                  registrar =
                some
                  ⟨tell withdrawn endpoint rest,
                    (registrar.untrack endpoint).registrar,
                    (registrar.untrack endpoint).journal⟩ := by
            simp [step, found]
          have counted (others : Nat) :
              withdrawn + 1 + others = withdrawn + (1 + others) :=
            Nat.add_assoc withdrawn 1 others
          cases client with
          | none =>
              have others :=
                inductionHypothesis
                  (registrar.untrack endpoint).registrar (withdrawn + 1)
              have whole := Leads.go taken (.go rfl others)
              simpa [Registrar.unregister, Registrar.unregisterOne,
                found, counted] using whole
          | some client =>
              have others :=
                inductionHypothesis
                  ((registrar.untrack endpoint).registrar.withdraw client
                    endpoint).registrar
                  (withdrawn + 1)
              have whole := Leads.go taken (.go rfl others)
              simpa [Registrar.unregister, Registrar.unregisterOne,
                found, counted] using whole

/-- A registration that nobody interferes with is the registration as a whole. -/
theorem leads_register
    (client : Option (RegistryClient ρ))
    (registrar : Registrar ρ)
    (settings : Settings)
    (probe : IpAddress → Option IpAddress) :
    let step := registrar.register client probe settings
    Leads client registrar (Order.register settings probe).task
      ⟨registered step.value, step.registrar, step.journal⟩ := by
  cases client with
  | none =>
      exact .once rfl
  | some client =>
      generalize resolved : Registrar.reachableAddress probe settings.ip = found
      have first :
          (resolve settings probe).step (some client) registrar =
            some
              ⟨offer (Registrar.endpointsFor settings found.1)
                  (Registrar.endpointsFor settings found.1),
                registrar, found.2⟩ := by
        simp only [step, resolved]
      have whole :=
        Leads.go first
          (leads_offer client registrar
            (Registrar.endpointsFor settings found.1)
            (Registrar.endpointsFor settings found.1))
      rcases outcome :
          (registrar.publishAll client
            (Registrar.endpointsFor settings found.1)).value with
        failure | accepted
      · simpa [Order.task, Registrar.register, resolved, outcome]
          using whole
      · simp only [outcome] at whole
        have concluded := whole.trans (.once rfl)
        simpa [Order.task, Registrar.register, resolved, outcome]
          using concluded

/-- A withdrawal of all endpoints that nobody interferes with is that as a whole. -/
theorem leads_unregisterAll
    (client : Option (RegistryClient ρ))
    (registrar : Registrar ρ) :
    let step := registrar.unregisterAll client
    Leads client registrar Order.unregisterAll.task
      ⟨unregistered step.value, step.registrar, step.journal⟩ := by
  have copied :
      copyList.step client registrar =
        some ⟨untrack 0 registrar.tracked, registrar, []⟩ :=
    rfl
  have whole :=
    Leads.go copied (leads_untrack client registrar 0 registrar.tracked)
  simpa [Order.task, Registrar.unregisterAll] using whole

end Task

/-- One step of a task: the task and the registrar before it, and what it led to. -/
structure Act (ρ : Type) where
  actor : Nat
  task : Task
  before : Registrar ρ
  step : Step ρ Task

/-- A registrar, the tasks on it, and what they have done, in order. -/
structure Office (ρ : Type) where
  registrar : Registrar ρ
  tasks : List Task := []
  history : List (Act ρ) := []

/-- What may happen in an office. -/
inductive Occasion (ρ : Type) where
  | order (order : Order)
  | turn (actor : Nat)
  | elsewhere (registry : ρ) (switches : SwitchBoard)

namespace Office

variable
  {client : Option (RegistryClient ρ)}
  {office : Office ρ}

/-- Somebody gives an order. -/
def ordered
    (office : Office ρ)
    (order : Order) : Office ρ :=
  { office with tasks := office.tasks ++ [order.task] }

/-- A task has taken a step. -/
def stepped
    (office : Office ρ)
    (actor : Nat)
    (task : Task)
    (step : Step ρ Task) : Office ρ :=
  { registrar := step.registrar
    tasks := office.tasks.set actor step.value
    history :=
      office.history ++ [{ actor, task, before := office.registrar, step }] }

/-- The registry and the switches have changed. -/
def within
    (office : Office ρ)
    (registry : ρ)
    (switches : SwitchBoard) : Office ρ :=
  { office with registrar := { office.registrar with registry, switches } }

/-- An occasion.  Turns of tasks that are done change nothing. -/
def after
    (client : Option (RegistryClient ρ))
    (office : Office ρ) : Occasion ρ → Office ρ
  | .order order => office.ordered order
  | .turn actor =>
      match office.tasks[actor]? with
      | none => office
      | some task =>
          match task.step client office.registrar with
          | none => office
          | some step => office.stepped actor task step
  | .elsewhere registry switches => office.within registry switches

/-- Occasions in order. -/
def run
    (client : Option (RegistryClient ρ))
    (office : Office ρ)
    (schedule : List (Occasion ρ)) : Office ρ :=
  schedule.foldl (after client) office

/-- The office of a new registrar. -/
def opening
    (registry : ρ)
    (switches : SwitchBoard) : Office ρ :=
  { registrar := { registry, switches } }

/-- All that was written down in an office. -/
def journal (office : Office ρ) : List Entry :=
  office.history.flatMap fun act => act.step.journal

/-- A turn leaves the office as it is, or is the step of some task. -/
theorem after_turn
    (client : Option (RegistryClient ρ))
    (office : Office ρ)
    (actor : Nat) :
    office.after client (.turn actor) = office ∨
      ∃ task step,
        office.tasks[actor]? = some task ∧
        task.step client office.registrar = some step ∧
        office.after client (.turn actor) =
          office.stepped actor task step := by
  cases found : office.tasks[actor]? with
  | none =>
      exact .inl (by simp [after, found])
  | some task =>
      cases taken : task.step client office.registrar with
      | none =>
          exact .inl (by simp [after, found, taken])
      | some step =>
          exact .inr ⟨task, step, rfl, taken, by simp [after, found, taken]⟩

/--
What holds of a new office and is preserved by orders, by steps of tasks and by
changes elsewhere holds under every schedule.
-/
theorem run_induct
    {invariant : Office ρ → Prop}
    (ordered :
      ∀ office order, invariant office → invariant (office.ordered order))
    (stepped :
      ∀ office actor task step,
        office.tasks[actor]? = some task →
        task.step client office.registrar = some step →
        invariant office →
        invariant (office.stepped actor task step))
    (within :
      ∀ office registry switches,
        invariant office →
        invariant (office.within registry switches))
    (opens : invariant office)
    (schedule : List (Occasion ρ)) :
    invariant (office.run client schedule) := by
  induction schedule generalizing office with
  | nil =>
      exact opens
  | cons occasion rest inductionHypothesis =>
      apply inductionHypothesis
      cases occasion with
      | order order =>
          exact ordered office order opens
      | turn actor =>
          rcases after_turn client office actor with
            same | ⟨task, step, found, taken, same⟩
          · rw [same]
            exact opens
          · rw [same]
            exact stepped office actor task step found taken opens
      | elsewhere registry switches =>
          exact within office registry switches opens

/-- The task that takes a step, among the others. -/
theorem tasks_split
    {actor : Nat}
    {task : Task}
    (found : office.tasks[actor]? = some task)
    (step : Step ρ Task) :
    ∃ earlier later,
      office.tasks = earlier ++ task :: later ∧
      earlier.length = actor ∧
      (office.stepped actor task step).tasks =
        earlier ++ step.value :: later := by
  obtain ⟨inside, same⟩ := List.getElem?_eq_some_iff.mp found
  obtain ⟨earlier, later, shape, length, changed⟩ :
      ∃ earlier later,
        office.tasks = earlier ++ office.tasks[actor] :: later ∧
        earlier.length = actor ∧
        office.tasks.set actor step.value =
          earlier ++ step.value :: later :=
    List.exists_of_set inside
  rw [same] at shape
  exact ⟨earlier, later, shape, length, changed⟩

/-- A step adds its entries to the end of the journal. -/
theorem journal_stepped
    (office : Office ρ)
    (actor : Nat)
    (task : Task)
    (step : Step ρ Task) :
    (office.stepped actor task step).journal =
      office.journal ++ step.journal := by
  simp [journal, stepped]

end Office

end PluggableHost.Registry
