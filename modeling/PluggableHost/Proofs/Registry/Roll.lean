import Mathlib.Data.List.Induction
import Mathlib.Data.List.Nodup
import PluggableHost.Registry.Endpoint

namespace PluggableHost.Registry

open List

/-!
# Rolls of endpoints

A roll is a set of endpoints in the order in which they were entered.  An endpoint
that is entered again keeps its place; one that was struck out and is entered again
comes last.  So an endpoint is on the roll if it was entered and not struck out
since, and endpoints stand in the order of the entries that brought them there.
-/

/-- What is done to a set of endpoints. -/
inductive Change where
  | enter (endpoint : Endpoint)
  | strike (endpoint : Endpoint)
  deriving Repr, DecidableEq

namespace Change

/-- The roll after a change. -/
def onRoll
    (roll : List Endpoint) : Change → List Endpoint
  | enter endpoint =>
      if endpoint ∈ roll then roll else roll ++ [endpoint]
  | strike endpoint => roll.erase endpoint

end Change

/-- The roll that changes lead to, in order. -/
def roll (changes : List Change) : List Endpoint :=
  changes.foldl Change.onRoll []

/-- The changes contain the entry that brought an endpoint to the place that it has. -/
def EnteredAt
    (changes earlier : List Change)
    (endpoint : Endpoint)
    (later : List Change) : Prop :=
  changes = earlier ++ .enter endpoint :: later ∧
    endpoint ∉ roll earlier ∧
    .strike endpoint ∉ later

/-- An endpoint was brought to its place before another one was. -/
def EnteredBefore
    (changes : List Change)
    (first second : Endpoint) : Prop :=
  ∃ earlier between later,
    EnteredAt changes earlier first
      (between ++ .enter second :: later) ∧
    EnteredAt changes (earlier ++ .enter first :: between) second later

/-- One more change is made to the roll after the others. -/
theorem roll_append
    (changes : List Change)
    (change : Change) :
    roll (changes ++ [change]) = change.onRoll (roll changes) := by
  rw [roll, List.foldl_append]
  rfl

/-- Nothing stands on a roll twice. -/
theorem nodup_roll (changes : List Change) :
    (roll changes).Nodup := by
  induction changes using List.reverseRecOn with
  | nil =>
      exact List.nodup_nil
  | append_singleton changes change inductionHypothesis =>
      rw [roll_append]
      cases change with
      | enter endpoint =>
          by_cases present : endpoint ∈ roll changes
          · simpa only [Change.onRoll, present, ↓reduceIte]
              using inductionHypothesis
          · simp only [Change.onRoll, present, ↓reduceIte]
            exact List.nodup_append.mpr
              ⟨inductionHypothesis, List.nodup_singleton endpoint,
                by
                  rintro other listed _ here rfl
                  rw [List.mem_singleton] at here
                  exact present (here ▸ listed)⟩
      | strike endpoint =>
          exact inductionHypothesis.erase endpoint

/-- A change other than striking the endpoint out leaves it where it is. -/
theorem EnteredAt.append
    {changes earlier later : List Change}
    {endpoint : Endpoint}
    (entered : EnteredAt changes earlier endpoint later)
    {change : Change}
    (spared : change ≠ .strike endpoint) :
    EnteredAt (changes ++ [change]) earlier endpoint
      (later ++ [change]) := by
  obtain ⟨shape, absent, kept⟩ := entered
  refine ⟨?_, absent, ?_⟩
  · rw [shape, List.append_assoc, List.cons_append]
  · rw [List.mem_append, List.mem_singleton]
    rintro (struck | same)
    · exact kept struck
    · exact spared same.symm

/-- A change that strikes neither off leaves their order. -/
theorem EnteredBefore.append
    {changes : List Change}
    {first second : Endpoint}
    (entered : EnteredBefore changes first second)
    {change : Change}
    (sparesFirst : change ≠ .strike first)
    (sparesSecond : change ≠ .strike second) :
    EnteredBefore (changes ++ [change]) first second := by
  obtain ⟨earlier, between, later, early, late⟩ := entered
  refine ⟨earlier, between, later ++ [change], ?_, ?_⟩
  · have longer := early.append sparesFirst
    rwa [List.append_assoc, List.cons_append] at longer
  · exact late.append sparesSecond

/-- What stays on a roll when an endpoint is struck out is another endpoint. -/
theorem ne_strike_of_mem
    {changes : List Change}
    {endpoint : Endpoint}
    {change : Change}
    (listed : endpoint ∈ change.onRoll (roll changes)) :
    change ≠ .strike endpoint := by
  rintro rfl
  exact (nodup_roll changes).not_mem_erase listed

/-- An entry puts the endpoint on the roll, if it is not there. -/
theorem mem_onRoll_enter
    (roll : List Endpoint)
    (endpoint : Endpoint) :
    endpoint ∈ (Change.enter endpoint).onRoll roll := by
  by_cases listed : endpoint ∈ roll
  · simp only [Change.onRoll, listed, ↓reduceIte]
  · simp only [Change.onRoll, listed, ↓reduceIte]
    exact List.mem_append_right roll (List.mem_singleton_self endpoint)

/-- An endpoint stays on the roll until it is struck out. -/
theorem mem_onRoll_of_mem
    {roll : List Endpoint}
    {endpoint : Endpoint}
    (listed : endpoint ∈ roll)
    {change : Change}
    (spared : change ≠ .strike endpoint) :
    endpoint ∈ change.onRoll roll := by
  cases change with
  | enter other =>
      simp only [Change.onRoll]
      split
      · exact listed
      · exact List.mem_append_left _ listed
  | strike other =>
      have apart : endpoint ≠ other := fun same => spared (same ▸ rfl)
      exact (List.mem_erase_of_ne apart).mpr listed

/-- An endpoint that was entered and not struck out since is on the roll. -/
theorem mem_roll_of_entered
    {endpoint : Endpoint}
    (earlier : List Change)
    {later : List Change}
    (kept : .strike endpoint ∉ later) :
    endpoint ∈ roll (earlier ++ .enter endpoint :: later) := by
  induction later using List.reverseRecOn with
  | nil =>
      rw [roll_append]
      exact mem_onRoll_enter _ endpoint
  | append_singleton later change inductionHypothesis =>
      rw [List.mem_append, List.mem_singleton, not_or] at kept
      rw [← List.cons_append, ← List.append_assoc, roll_append]
      exact mem_onRoll_of_mem (inductionHypothesis kept.1)
        (Ne.symm kept.2)

/-- Endpoints on a roll are there by an entry that nothing has undone. -/
theorem mem_roll
    {changes : List Change}
    {endpoint : Endpoint} :
    endpoint ∈ roll changes ↔
      ∃ earlier later, EnteredAt changes earlier endpoint later := by
  constructor
  · intro listed
    induction changes using List.reverseRecOn with
    | nil =>
        exact absurd listed List.not_mem_nil
    | append_singleton changes change inductionHypothesis =>
        rw [roll_append] at listed
        by_cases before : endpoint ∈ roll changes
        · obtain ⟨earlier, later, entered⟩ := inductionHypothesis before
          exact ⟨earlier, later ++ [change],
            entered.append (ne_strike_of_mem listed)⟩
        · have new : change = .enter endpoint := by
            cases change with
            | enter other =>
                simp only [Change.onRoll] at listed
                split at listed
                · exact absurd listed before
                · rcases List.mem_append.mp listed with old | new
                  · exact absurd old before
                  · rw [List.mem_singleton.mp new]
            | strike other =>
                exact absurd (List.mem_of_mem_erase listed) before
          exact ⟨changes, [], by rw [new], before, List.not_mem_nil⟩
  · rintro ⟨earlier, later, rfl, -, kept⟩
    exact mem_roll_of_entered earlier kept

/--
Endpoints stand in the order of the entries that brought them to their places, which
those still listed keep.
-/
theorem pairwise_roll (changes : List Change) :
    (roll changes).Pairwise (EnteredBefore changes) := by
  induction changes using List.reverseRecOn with
  | nil =>
      exact List.Pairwise.nil
  | append_singleton changes change inductionHypothesis =>
      have kept :
          ∀ {first second},
            first ∈ change.onRoll (roll changes) →
            second ∈ change.onRoll (roll changes) →
            EnteredBefore changes first second →
            EnteredBefore (changes ++ [change]) first second :=
        fun early late before =>
          before.append (ne_strike_of_mem early) (ne_strike_of_mem late)
      rw [roll_append]
      cases change with
      | enter endpoint =>
          by_cases present : endpoint ∈ roll changes
          · simp only [Change.onRoll, present, ↓reduceIte] at kept ⊢
            exact inductionHypothesis.imp_of_mem kept
          · simp only [Change.onRoll, present, ↓reduceIte] at kept ⊢
            refine List.pairwise_append.mpr
              ⟨inductionHypothesis.imp_of_mem fun early late =>
                  kept (List.mem_append_left _ early)
                    (List.mem_append_left _ late),
                List.pairwise_singleton _ endpoint, ?_⟩
            intro other listed last here
            obtain rfl := List.mem_singleton.mp here
            obtain ⟨earlier, later, shape, absent, notStruck⟩ :=
              mem_roll.mp listed
            refine ⟨earlier, later, [], ⟨?_, absent, ?_⟩, ?_, ?_, ?_⟩
            · rw [shape, List.append_assoc, List.cons_append]
            · simpa using notStruck
            · rw [shape, List.append_assoc, List.cons_append]
            · rwa [← shape]
            · exact List.not_mem_nil
      | strike endpoint =>
          simp only [Change.onRoll] at kept ⊢
          exact (inductionHypothesis.sublist List.erase_sublist).imp_of_mem
            kept

end PluggableHost.Registry
