import PluggableHost.Observability.Journal

namespace PluggableHost.Observability

/-!
# What recorded computations come to

The outcome of a sequence follows from the outcomes of its parts, whatever they
write, and a predicate on recorded computations: whenever they fail, the failure
has some property.
-/

namespace Recorded

variable
  {ε α β : Type}
  {allowed : ε → Prop}
  {first : Recorded ε α}
  {next : α → Recorded ε β}

@[simp] theorem outcome_note (entry : Entry) :
    (note entry : Recorded ε Unit).outcome = .ok () := rfl

@[simp] theorem outcome_notes (entries : List Entry) :
    (notes entries : Recorded ε Unit).outcome = .ok () := rfl

@[simp] theorem outcome_fail (failure : ε) :
    (fail failure : Recorded ε α).outcome = .error failure := rfl

/-- What follows matters only for the values that the first part comes to. -/
theorem bind_congr
    {other : α → Recorded ε β}
    (same :
      ∀ middle, first.outcome = .ok middle → next middle = other middle) :
    first >>= next = first >>= other := by
  cases outcome : first.outcome with
  | error failure =>
      rw [bind_of_error next outcome, bind_of_error other outcome]
  | ok middle =>
      rw [bind_of_ok next outcome, bind_of_ok other outcome,
        same middle outcome]

/-- A sequence succeeds when its parts do. -/
theorem bind_ok_iff {value : β} :
    (first >>= next).outcome = .ok value ↔
      ∃ middle,
        first.outcome = .ok middle ∧ (next middle).outcome = .ok value := by
  cases outcome : first.outcome with
  | error failure =>
      simp [bind_of_error next outcome]
  | ok middle =>
      simp [bind_of_ok next outcome]

/-- The same where the first part has nothing to hand on. -/
theorem unit_bind_ok_iff
    {check : Recorded ε Unit}
    {rest : Unit → Recorded ε β}
    {value : β} :
    (check >>= rest).outcome = .ok value ↔
      check.outcome = .ok () ∧ (rest ()).outcome = .ok value :=
  bind_ok_iff.trans
    ⟨fun ⟨(), passed, succeeded⟩ => ⟨passed, succeeded⟩,
      fun ⟨passed, succeeded⟩ => ⟨(), passed, succeeded⟩⟩

/-- A sequence fails when its first part does, or the second after it. -/
theorem bind_error_iff {failure : ε} :
    (first >>= next).outcome = .error failure ↔
      first.outcome = .error failure ∨
        ∃ middle,
          first.outcome = .ok middle ∧
            (next middle).outcome = .error failure := by
  cases outcome : first.outcome with
  | error other =>
      simp [bind_of_error next outcome]
  | ok middle =>
      simp [bind_of_ok next outcome]

/-- What is written after a first part that succeeded is written. -/
theorem mem_journal_bind
    {middle : α}
    {entry : Entry}
    (succeeded : first.outcome = .ok middle)
    (written : entry ∈ (next middle).journal) :
    entry ∈ (first >>= next).journal := by
  rw [bind_of_ok next succeeded]
  exact List.mem_append_right _ written

/-- Whenever a computation fails, the failure has a property. -/
def Fails
    (allowed : ε → Prop)
    (part : Recorded ε α) : Prop :=
  ∀ failure, part.outcome = .error failure → allowed failure

/-- What succeeds fails in no way. -/
theorem fails_of_ok
    {part : Recorded ε α}
    {value : α}
    (succeeds : part.outcome = .ok value) :
    Fails allowed part := by
  intro failure failed
  rw [succeeds] at failed
  cases failed

/-- A value fails in no way. -/
theorem fails_pure (value : α) :
    Fails allowed (Pure.pure value : Recorded ε α) :=
  fails_of_ok (outcome_pure value)

/-- Noting an entry fails in no way. -/
theorem fails_note (entry : Entry) :
    Fails allowed (note entry : Recorded ε Unit) :=
  fails_of_ok (outcome_note entry)

/-- Noting entries fails in no way. -/
theorem fails_notes (entries : List Entry) :
    Fails allowed (notes entries : Recorded ε Unit) :=
  fails_of_ok (outcome_notes entries)

/-- A failure fails in the way it is. -/
theorem fails_fail
    {failure : ε}
    (fine : allowed failure) :
    Fails allowed (fail failure : Recorded ε α) := by
  intro other failed
  cases failed
  exact fine

/-- A sequence fails as its parts do; the second one only after the first succeeded. -/
theorem fails_bind
    (firstFails : Fails allowed first)
    (nextFails :
      ∀ middle, first.outcome = .ok middle → Fails allowed (next middle)) :
    Fails allowed (first >>= next) := by
  intro failure failed
  rcases bind_error_iff.mp failed with early | ⟨middle, succeeded, late⟩
  · exact firstFails failure early
  · exact nextFails middle succeeded failure late

/-- What fails in some ways fails in wider ones. -/
theorem Fails.mono
    {wider : ε → Prop}
    {part : Recorded ε α}
    (fails : Fails allowed part)
    (widens : ∀ failure, allowed failure → wider failure) :
    Fails wider part :=
  fun failure failed => widens failure (fails failure failed)

end Recorded

end PluggableHost.Observability
