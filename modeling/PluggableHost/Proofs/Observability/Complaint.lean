import PluggableHost.Observability.Journal

namespace PluggableHost.Observability

/-!
# Complaints

A complaint is an event of the gravest level.  A part that may fail is to complain
when it fails, of what has failed, and never otherwise; sequences of such parts are
such parts again.
-/

/-- The entry is an event of the gravest level. -/
def Entry.isComplaint : Entry → Bool
  | event value => value.level = .error
  | _ => false

/-- The complaints in a journal, in their order. -/
def complaints (journal : List Entry) : List Entry :=
  journal.filter Entry.isComplaint

@[simp] theorem complaints_nil : complaints [] = [] := rfl

@[simp] theorem complaints_append
    (earlier later : List Entry) :
    complaints (earlier ++ later) =
      complaints earlier ++ complaints later :=
  List.filter_append ..

/-- A journal without complaints has no entry that complains. -/
theorem complaints_eq_nil_iff
    {journal : List Entry} :
    complaints journal = [] ↔
      ∀ entry ∈ journal, entry.isComplaint = false := by
  simp [complaints, List.filter_eq_nil_iff]

variable
  {ε α β : Type}
  {complaint : ε → List Entry → Prop}

/-- What succeeds complains of nothing, and what fails complains as its failure asks for. -/
structure ComplainsOf
    (complaint : ε → List Entry → Prop)
    (outcome : Except ε α)
    (journal : List Entry) : Prop where
  calm : ∀ value, outcome = .ok value → complaints journal = []
  failed :
    ∀ failure,
      outcome = .error failure → complaint failure (complaints journal)

/-- A success complains of nothing. -/
theorem complainsOf_ok
    (value : α)
    {journal : List Entry}
    (calm : complaints journal = []) :
    ComplainsOf complaint (.ok value) journal where
  calm _ _ := calm
  failed _ failed := nomatch failed

/-- A failure complains of what it should. -/
theorem complainsOf_error
    {failure : ε}
    {journal : List Entry}
    (complains : complaint failure (complaints journal)) :
    ComplainsOf complaint (.error failure : Except ε α) journal where
  calm _ succeeded := nomatch succeeded
  failed other same := by
    cases same
    exact complains

namespace Recorded

/-- A computation complains of its failures, and of nothing else. -/
abbrev Complains
    (complaint : ε → List Entry → Prop)
    (part : Recorded ε α) : Prop :=
  ComplainsOf complaint part.outcome part.journal

/-- Nothing done, nothing complained of. -/
theorem complains_pure
    (value : α) :
    (Pure.pure value : Recorded ε α).Complains complaint :=
  complainsOf_ok value rfl

/-- Entries that do not complain may be noted. -/
theorem complains_notes
    {entries : List Entry}
    (calm : complaints entries = []) :
    (notes entries : Recorded ε Unit).Complains complaint :=
  complainsOf_ok () calm

/-- An entry that does not complain may be noted. -/
theorem complains_note
    {entry : Entry}
    (calm : entry.isComplaint = false) :
    (note entry : Recorded ε Unit).Complains complaint :=
  complainsOf_ok () (by simpa [complaints_eq_nil_iff, note] using calm)

/-- A sequence complains of the failures of its parts. -/
theorem complains_bind
    {first : Recorded ε α}
    {next : α → Recorded ε β}
    (firstComplains : first.Complains complaint)
    (nextComplains : ∀ value, (next value).Complains complaint) :
    (first >>= next).Complains complaint := by
  cases outcome : first.outcome with
  | error failure =>
      rw [bind_of_error next outcome]
      exact complainsOf_error (firstComplains.failed failure outcome)
  | ok value =>
      rw [bind_of_ok next outcome]
      have quiet := firstComplains.calm value outcome
      constructor
      case calm =>
        intro last succeeded
        rw [complaints_append, quiet,
          (nextComplains value).calm last succeeded]
        rfl
      case failed =>
        intro failure failed
        rw [complaints_append, quiet, List.nil_append]
        exact (nextComplains value).failed failure failed

end Recorded

end PluggableHost.Observability
