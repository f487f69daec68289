import Mathlib.Data.List.Induction
import PluggableHost.Http.Limiter
import PluggableHost.Proofs.Plugin.Course

namespace PluggableHost.Http

open PluggableHost.Plugin

/-!
# Receptions

A limiter at which anything may happen next: a request joins, asks for a permit, goes
on with its work if it can, or goes away; time passes, or the shared state changes
elsewhere.  What happens is written down, so that it can be told who asked before whom,
and what every request did.  The turns and rounds of a limiter are such moves.
-/

variable {σ α : Type}

/-- What may happen next. -/
inductive Move (σ α : Type) where
  | join (work : Activity σ α)
  | ask (guest : Nat)
  | act (guest : Nat)
  | leave (guest : Nat)
  | wait (milliseconds : Nat)
  | elsewhere (shared : σ)

/-- What is written down.  Guests have numbers, in the order in which they join. -/
inductive Happening (σ α : Type) where
  | joined (work : Activity σ α)
  | asked (guest : Nat)
  /-- The guest has got a permit. -/
  | entered (guest : Nat)
  | acted (guest : Nat) (deeds : List (Deed σ))
  /-- The guest has gone away without having got a permit, after it had asked. -/
  | gaveUp (guest : Nat)

namespace Happening

/-- The work with which somebody has joined. -/
@[simp] def work? : Happening σ α → Option (Activity σ α)
  | joined work => some work
  | _ => none

/-- The guest that has asked for a permit. -/
@[simp] def asker? : Happening σ α → Option Nat
  | asked guest => some guest
  | _ => none

/-- The guest that was let in. -/
@[simp] def entrant? : Happening σ α → Option Nat
  | entered guest => some guest
  | _ => none

/-- The guest that has given up. -/
@[simp] def quitter? : Happening σ α → Option Nat
  | gaveUp guest => some guest
  | _ => none

/-- What a guest has done. -/
@[simp] def deedsOf (guest : Nat) : Happening σ α → List (Deed σ)
  | acted other deeds => if other = guest then deeds else []
  | _ => []

end Happening

/-- The work of every guest, as it was when the guest joined. -/
def works (log : List (Happening σ α)) : List (Activity σ α) :=
  log.filterMap Happening.work?

/-- Who has asked for a permit, in order. -/
def askers (log : List (Happening σ α)) : List Nat :=
  log.filterMap Happening.asker?

/-- Who has got a permit, in order. -/
def entrants (log : List (Happening σ α)) : List Nat :=
  log.filterMap Happening.entrant?

/-- The guests that have given up, in their order. -/
def quitters (log : List (Happening σ α)) : List Nat :=
  log.filterMap Happening.quitter?

/-- Everything that a guest has done. -/
def deedsOf
    (guest : Nat)
    (log : List (Happening σ α)) : List (Deed σ) :=
  log.flatMap (Happening.deedsOf guest)

namespace Limiter

/-- A request comes, and has not asked for a permit. -/
def join
    (limiter : Limiter σ α)
    (work : Activity σ α) : Limiter σ α :=
  { limiter with guests := limiter.guests ++ [.outside work] }

/-- A limiter after a move. -/
def after
    (limiter : Limiter σ α) : Move σ α → Limiter σ α
  | .join work => limiter.join work
  | .ask guest => limiter.ask guest
  | .act guest => limiter.act guest
  | .leave guest => limiter.leave guest
  | .wait milliseconds =>
      { limiter with clock := limiter.clock + milliseconds }
  | .elsewhere shared => { limiter with shared }

/-- Who gets the next permit that is given back. -/
def successor (limiter : Limiter σ α) : List (Happening σ α) :=
  (limiter.queue.take 1).map .entered

/-- What is written down about a move. -/
def noted
    (limiter : Limiter σ α) : Move σ α → List (Happening σ α)
  | .join work => [.joined work]
  | .ask guest =>
      match limiter.guests[guest]? with
      | some (.outside _) =>
          if limiter.closed || limiter.free = 0 then [.asked guest]
          else [.asked guest, .entered guest]
      | _ => []
  | .act guest =>
      match limiter.working? guest with
      | none => []
      | some work =>
          .acted guest (work.burstDeeds limiter.shared) ::
            match (work.burst limiter.shared).1 with
            | .done _ => limiter.successor
            | _ => []
  | .leave guest =>
      match limiter.guests[guest]? with
      | some (.waiting _) => [.gaveUp guest]
      | some (.admitted _) | some (.asleep _ _) => limiter.successor
      | _ => []
  | .wait _ | .elsewhere _ => []

end Limiter

/-- A limiter and what has happened there. -/
structure Reception (σ α : Type) where
  limiter : Limiter σ α
  log : List (Happening σ α) := []

namespace Reception

/-- A reception after a move, which is noted. -/
def after
    (reception : Reception σ α)
    (move : Move σ α) : Reception σ α :=
  { limiter := reception.limiter.after move
    log := reception.log ++ reception.limiter.noted move }

/-- A reception after several moves. -/
def run
    (reception : Reception σ α)
    (moves : List (Move σ α)) : Reception σ α :=
  moves.foldl after reception

/-- A reception with all permits free, where nobody is yet. -/
def opening
    (permits : Nat)
    (shared : σ) : Reception σ α :=
  { limiter := .ofWorks permits shared [] }

/-- Moves that follow each other are made one list after the other. -/
theorem run_append
    (reception : Reception σ α)
    (early late : List (Move σ α)) :
    reception.run (early ++ late) = (reception.run early).run late :=
  List.foldl_append

/-! ## Turns and rounds -/

/-- A limiter leads to another one, whatever was written down before. -/
def Reaches (limiter later : Limiter σ α) : Prop :=
  ∃ moves,
    ∀ log, ((⟨limiter, log⟩ : Reception σ α).run moves).limiter = later

/-- What is reached from what is reached is reached. -/
theorem Reaches.trans
    {limiter middle later : Limiter σ α}
    (first : Reaches limiter middle)
    (second : Reaches middle later) :
    Reaches limiter later := by
  obtain ⟨early, reached⟩ := first
  obtain ⟨late, ends⟩ := second
  refine ⟨early ++ late, fun log => ?_⟩
  rw [run_append, ← ends, ← reached log]

/-- Guests who take a turn ask and go on. -/
theorem reaches_turn
    (limiter : Limiter σ α)
    (guest : Nat) :
    Reaches limiter (limiter.turn guest) :=
  ⟨[.ask guest, .act guest], fun _ => rfl⟩

/-- Where nobody is ready time passes. -/
theorem reaches_settle (limiter : Limiter σ α) :
    Reaches limiter limiter.settle := by
  have stays : Reaches limiter limiter := ⟨[], fun _ => rfl⟩
  unfold Limiter.settle
  split
  · exact stays
  · split
    · rename_i wake _
      refine ⟨[.wait (wake - limiter.clock)], fun log => ?_⟩
      have clock : limiter.clock + (wake - limiter.clock) = max limiter.clock wake := by
        omega
      simp [run, after, Limiter.after, clock]
    · exact stays

/-- A round reaches where it leads. -/
theorem reaches_round (limiter : Limiter σ α) :
    Reaches limiter limiter.round := by
  have turns :
      ∀ guests : List Nat,
        Reaches limiter (guests.foldl Limiter.turn limiter) := by
    intro guests
    induction guests using List.reverseRecOn with
    | nil => exact ⟨[], fun _ => rfl⟩
    | append_singleton guests guest inductionHypothesis =>
        rw [List.foldl_append]
        exact inductionHypothesis.trans (reaches_turn _ guest)
  exact (turns _).trans (reaches_settle _)

/-- So do several rounds. -/
theorem reaches_rounds
    (limiter : Limiter σ α)
    (count : Nat) :
    Reaches limiter (limiter.rounds count) := by
  induction count generalizing limiter with
  | zero => exact ⟨[], fun _ => rfl⟩
  | succ count inductionHypothesis =>
      unfold Limiter.rounds
      split
      · exact ⟨[], fun _ => rfl⟩
      · exact (reaches_round limiter).trans (inductionHypothesis _)

/-- Requests may all be there from the beginning. -/
theorem reaches_ofWorks
    (permits : Nat)
    (shared : σ)
    (works : List (Activity σ α)) :
    Reaches (Limiter.ofWorks permits shared []) (.ofWorks permits shared works) := by
  induction works using List.reverseRecOn with
  | nil => exact ⟨[], fun _ => rfl⟩
  | append_singleton works work inductionHypothesis =>
      refine inductionHypothesis.trans ⟨[.join work], fun log => ?_⟩
      simp [run, after, Limiter.after, Limiter.join, Limiter.ofWorks]

end Reception

end PluggableHost.Http
