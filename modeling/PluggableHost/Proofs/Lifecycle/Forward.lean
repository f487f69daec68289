import PluggableHost.Proofs.Lifecycle.Scene

namespace PluggableHost.Lifecycle

open PluggableHost.Net PluggableHost.Observability PluggableHost.Plugin

/-!
# The state moves forward

Whoever takes a step, the state stays or makes one of the allowed moves.  The
states that a scene has entered form a path of moves from the first state.  A
path never comes back, so every state is entered once at most.
-/

namespace State

/-- How far a state is from the first one. -/
def rank : State → Nat
  | notStarted => 0
  | starting => 1
  | running => 2
  | shuttingDown => 3
  | stopped => 4

/-- Every move leads further from the first state. -/
theorem rank_lt_of_move
    {source target : State}
    (move : Move source target) :
    source.rank < target.rank := by
  cases move <;> decide

/-- No move leads to the first state. -/
theorem not_move_notStarted
    {source : State} :
    ¬ Move source notStarted := by
  intro move
  cases move

/-- No move leads back to where it started. -/
theorem Move.ne
    {source target : State}
    (move : Move source target) :
    target ≠ source := by
  intro same
  have further := rank_lt_of_move move
  rw [same] at further
  exact Nat.lt_irrefl _ further

/-- The states entered on the way from the first state to some state. -/
inductive Path : List State → State → Prop where
  | here : Path [] notStarted
  | onward
      {trail : List State}
      {source target : State}
      (way : Path trail source)
      (move : Move source target) :
      Path (trail ++ [target]) target

namespace Path

variable
  {trail : List State}
  {state : State}

/-- No state on the way is further than where the way leads. -/
theorem rank_le
    (way : Path trail state)
    {entered : State}
    (member : entered ∈ trail) :
    entered.rank ≤ state.rank := by
  induction way with
  | here =>
      exact absurd member List.not_mem_nil
  | onward way move inductionHypothesis =>
      rcases List.mem_append.mp member with earlier | last
      · exact Nat.le_of_lt
          (Nat.lt_of_le_of_lt (inductionHypothesis earlier)
            (rank_lt_of_move move))
      · exact Nat.le_of_eq
          (congrArg rank (List.mem_singleton.mp last))

/-- No state is entered twice. -/
theorem nodup
    (way : Path trail state) :
    trail.Nodup := by
  induction way with
  | here =>
      exact List.nodup_nil
  | @onward trail source target way move inductionHypothesis =>
      refine List.nodup_append.mpr
        ⟨inductionHypothesis, by simp, ?_⟩
      intro entered member last isLast same
      rw [List.mem_singleton.mp isLast] at same
      subst same
      exact absurd (way.rank_le member)
        (Nat.not_le.mpr (rank_lt_of_move move))

/-- Where a path has led to has been entered, unless it is the first state. -/
theorem mem_of_ne
    (way : Path trail state)
    (moved : state ≠ notStarted) :
    state ∈ trail := by
  cases way with
  | here =>
      exact absurd rfl moved
  | onward way move =>
      exact List.mem_append_right _ (List.mem_singleton.mpr rfl)

/-- A path leads to the state that was entered last. -/
theorem eq_nil_iff
    (way : Path trail state) :
    trail = [] ↔ state = notStarted := by
  cases way with
  | here =>
      simp
  | onward way move =>
      cases move <;> simp

/-- A shutdown follows a run, and a run follows a start. -/
theorem mem_of_mem
    (way : Path trail state) :
    (shuttingDown ∈ trail → running ∈ trail) ∧
      (running ∈ trail → starting ∈ trail) := by
  induction way with
  | here =>
      simp
  | onward way move inductionHypothesis =>
      cases move with
      | started =>
          have before := way.mem_of_ne (by decide)
          simp [before]
      | shutDown =>
          have before := way.mem_of_ne (by decide)
          simp [before, inductionHypothesis.2]
      | start =>
          exact ⟨by simpa using inductionHypothesis.1, by simp⟩
      | neverStarted =>
          simpa using inductionHypothesis
      | startFailed =>
          simpa using inductionHypothesis
      | finish =>
          simpa using inductionHypothesis

/-- A state that was left for good is one that the path has gone beyond. -/
theorem shuttingDown_mem
    (way : Path trail state)
    (ran : running ∈ trail)
    (ended : state ≠ running) :
    shuttingDown ∈ trail := by
  cases way with
  | here =>
      exact absurd ran List.not_mem_nil
  | onward way move =>
      cases move with
      | started =>
          exact absurd rfl ended
      | shutDown =>
          simp
      | finish =>
          exact List.mem_append_left _ (way.mem_of_ne (by decide))
      | start =>
          have none := way.eq_nil_iff.mpr rfl
          simp [none] at ran
      | neverStarted =>
          have none := way.eq_nil_iff.mpr rfl
          simp [none] at ran
      | startFailed =>
          have earlier := (List.mem_append.mp ran).resolve_right (by simp)
          exact absurd (way.rank_le earlier) (by decide)

end Path

end State

end PluggableHost.Lifecycle
