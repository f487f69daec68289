import PluggableHost.Observability.Journal

namespace PluggableHost.Observability

open PluggableHost.Registry

/-!
# What gets written into a journal

The calls of a registry, the hooks and the new states that a journal tells of, and
a predicate on recorded computations: whatever they come to, all that they write
has some property.
-/

namespace Entry

/-- The endpoint that the registry was asked to publish. -/
def offered? : Entry → Option Endpoint
  | call (.register endpoint) => some endpoint
  | _ => none

/-- The endpoint that the registry was asked to withdraw. -/
def withdrawn? : Entry → Option Endpoint
  | call (.unregister endpoint) => some endpoint
  | _ => none

/-- The name of the hook that is run. -/
def ranHook? : Entry → Option String
  | call (.runHook hook) => some hook
  | _ => none

/-- The state that the host has entered. -/
def entered? : Entry → Option Lifecycle.State
  | metric (.transition target) => some target
  | _ => none

@[simp] theorem entered?_log
    (level : Level)
    (origin : Origin)
    (message : String)
    (fields : List (String × FieldValue)) :
    (log level origin message fields).entered? = none := rfl

@[simp] theorem entered?_transition
    (target : Lifecycle.State) :
    (Entry.metric (.transition target)).entered? = some target := rfl

@[simp] theorem entered?_registeredEndpoints
    (count : Nat) :
    (Entry.metric (.registeredEndpoints count)).entered? = none := rfl

@[simp] theorem entered?_openListeners
    (count : Nat) :
    (Entry.metric (.openListeners count)).entered? = none := rfl

@[simp] theorem entered?_call
    (called : PluginCall) :
    (call called).entered? = none := rfl

@[simp] theorem offered?_log
    (level : Level)
    (origin : Origin)
    (message : String)
    (fields : List (String × FieldValue)) :
    (log level origin message fields).offered? = none := rfl

@[simp] theorem offered?_metric
    (metric : Metric) :
    (Entry.metric metric).offered? = none := rfl

@[simp] theorem withdrawn?_metric
    (metric : Metric) :
    (Entry.metric metric).withdrawn? = none := rfl

@[simp] theorem offered?_register
    (endpoint : Endpoint) :
    (call (.register endpoint)).offered? = some endpoint := rfl

@[simp] theorem withdrawn?_register
    (endpoint : Endpoint) :
    (call (.register endpoint)).withdrawn? = none := rfl

@[simp] theorem offered?_unregister
    (endpoint : Endpoint) :
    (call (.unregister endpoint)).offered? = none := rfl

@[simp] theorem withdrawn?_unregister
    (endpoint : Endpoint) :
    (call (.unregister endpoint)).withdrawn? = some endpoint := rfl

@[simp] theorem withdrawn?_log
    (level : Level)
    (origin : Origin)
    (message : String)
    (fields : List (String × FieldValue)) :
    (log level origin message fields).withdrawn? = none := rfl

@[simp] theorem ranHook?_log
    (level : Level)
    (origin : Origin)
    (message : String)
    (fields : List (String × FieldValue)) :
    (log level origin message fields).ranHook? = none := rfl

@[simp] theorem ranHook?_metric
    (value : Metric) :
    (metric value).ranHook? = none := rfl

@[simp] theorem ranHook?_register
    (endpoint : Endpoint) :
    (call (.register endpoint)).ranHook? = none := rfl

@[simp] theorem ranHook?_unregister
    (endpoint : Endpoint) :
    (call (.unregister endpoint)).ranHook? = none := rfl

/-- The entry is no call of the registry or of a hook, and no report of a new state. -/
def spares (entry : Entry) : Bool :=
  entry.offered?.isNone && entry.withdrawn?.isNone &&
    entry.ranHook?.isNone && entry.entered?.isNone

/-- Events are neither calls nor metric updates. -/
theorem spares_of_event
    {entry : Entry}
    (isEvent : entry.event?.isSome) :
    entry.spares := by
  cases entry with
  | event value =>
      rfl
  | metric value =>
      simp [event?] at isEvent
  | call value =>
      simp [event?] at isEvent

end Entry

/-- The calls by which endpoints were offered, in their order. -/
def offers (journal : List Entry) : List Endpoint :=
  journal.filterMap Entry.offered?

/-- The calls by which endpoints were withdrawn, in their order. -/
def withdrawals (journal : List Entry) : List Endpoint :=
  journal.filterMap Entry.withdrawn?

/-- The names of the hooks that were run, in their order. -/
def hooksRun (journal : List Entry) : List String :=
  journal.filterMap Entry.ranHook?

/-- The new states that were reported, in their order. -/
def transitions (journal : List Entry) : List Lifecycle.State :=
  journal.filterMap Entry.entered?

@[simp] theorem offers_nil : offers [] = [] := rfl

@[simp] theorem transitions_nil : transitions [] = [] := rfl

@[simp] theorem withdrawals_nil : withdrawals [] = [] := rfl

@[simp] theorem hooksRun_nil : hooksRun [] = [] := rfl

@[simp] theorem offers_cons
    (entry : Entry)
    (rest : List Entry) :
    offers (entry :: rest) = entry.offered?.toList ++ offers rest := by
  cases called : entry.offered? <;>
    simp [offers, called]

@[simp] theorem withdrawals_cons
    (entry : Entry)
    (rest : List Entry) :
    withdrawals (entry :: rest) =
      entry.withdrawn?.toList ++ withdrawals rest := by
  cases called : entry.withdrawn? <;>
    simp [withdrawals, called]

@[simp] theorem hooksRun_cons
    (entry : Entry)
    (rest : List Entry) :
    hooksRun (entry :: rest) =
      entry.ranHook?.toList ++ hooksRun rest := by
  cases called : entry.ranHook? <;>
    simp [hooksRun, called]

@[simp] theorem transitions_cons
    (entry : Entry)
    (rest : List Entry) :
    transitions (entry :: rest) =
      entry.entered?.toList ++ transitions rest := by
  cases called : entry.entered? <;>
    simp [transitions, called]

@[simp] theorem transitions_append
    (earlier later : List Entry) :
    transitions (earlier ++ later) =
      transitions earlier ++ transitions later :=
  List.filterMap_append

@[simp] theorem offers_append
    (earlier later : List Entry) :
    offers (earlier ++ later) = offers earlier ++ offers later :=
  List.filterMap_append

@[simp] theorem withdrawals_append
    (earlier later : List Entry) :
    withdrawals (earlier ++ later) =
      withdrawals earlier ++ withdrawals later :=
  List.filterMap_append

@[simp] theorem hooksRun_append
    (earlier later : List Entry) :
    hooksRun (earlier ++ later) = hooksRun earlier ++ hooksRun later :=
  List.filterMap_append

/-- A journal of such entries tells of no call and no new state. -/
theorem nothing_of_spares
    {journal : List Entry}
    (spares : ∀ entry ∈ journal, entry.spares) :
    offers journal = [] ∧
      withdrawals journal = [] ∧
      hooksRun journal = [] ∧
      transitions journal = [] := by
  simp only [offers, withdrawals, hooksRun, transitions,
    List.filterMap_eq_nil_iff]
  refine ⟨?_, ?_, ?_, ?_⟩ <;>
    intro entry member <;>
    have spared := spares entry member <;>
    simp_all [Entry.spares]

namespace Recorded

variable {ε α β : Type} {allowed : Entry → Prop}

/-- Noted entries come before those of what follows. -/
theorem notes_bind
    (entries : List Entry)
    (next : Unit → Recorded ε β) :
    notes entries >>= next =
      ⟨(next ()).outcome, entries ++ (next ()).journal⟩ := rfl

/-- All that a computation writes has a property. -/
def Writes
    (allowed : Entry → Prop)
    (part : Recorded ε α) : Prop :=
  ∀ entry ∈ part.journal, allowed entry

/-- A value writes nothing. -/
theorem writes_pure
    (value : α) :
    Writes allowed (Pure.pure value : Recorded ε α) := by
  simp [Writes]

/-- A failure writes nothing. -/
theorem writes_fail
    (failure : ε) :
    Writes allowed (fail failure : Recorded ε α) := by
  simp [Writes, fail]

/-- An allowed entry may be noted. -/
theorem writes_note
    {entry : Entry}
    (fine : allowed entry) :
    Writes allowed (note entry : Recorded ε Unit) := by
  simpa [Writes, note] using fine

/-- Allowed entries may be noted. -/
theorem writes_notes
    {entries : List Entry}
    (fine : ∀ entry ∈ entries, allowed entry) :
    Writes allowed (notes entries : Recorded ε Unit) := by
  simpa [Writes, notes] using fine

/-- A sequence writes what its parts write. -/
theorem writes_bind
    {first : Recorded ε α}
    {next : α → Recorded ε β}
    (firstWrites : Writes allowed first)
    (nextWrites : ∀ value, Writes allowed (next value)) :
    Writes allowed (first >>= next) := by
  cases outcome : first.outcome with
  | error failure =>
      rw [bind_of_error next outcome]
      exact firstWrites
  | ok value =>
      rw [bind_of_ok next outcome]
      intro entry member
      rcases List.mem_append.mp member with inFirst | inNext
      · exact firstWrites entry inFirst
      · exact nextWrites value entry inNext

end Recorded

end PluggableHost.Observability
