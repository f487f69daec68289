import PluggableHost.Plugin.Activity

namespace PluggableHost.Http

open PluggableHost.Plugin

/-!
# The worker limit

A fixed number of permits is shared by all requests. A request that finds no
permit waits in a queue, and a permit that is given back goes to the head of
the queue at once. Whoever asks when no more permits are given out is answered
that the service is unavailable. Each step below is atomic, so that a schedule
of requests is a sequence of steps.
-/

/-- Where a request stands. -/
inductive Guest (σ α : Type) where
  /-- It has not asked for a permit. -/
  | outside (work : Activity σ α)
  | waiting (work : Activity σ α)
  | admitted (work : Activity σ α)
  /-- It holds a permit and sleeps until a time. -/
  | asleep (wake : Nat) (work : Activity σ α)
  | answered (value : α)
  /-- It was told that the service is unavailable. -/
  | refused
  /-- It went away before it was answered. -/
  | gone

namespace Guest

variable {σ α : Type}

/-- The guest has a permit, and has not given it back. -/
def holdsPermit : Guest σ α → Bool
  | admitted _ => true
  | asleep _ _ => true
  | _ => false

/-- The guest's answer, if it has one. -/
def answer? : Guest σ α → Option α
  | answered value => some value
  | _ => none

/-- The request in the queue gets a permit. -/
def letIn : Guest σ α → Guest σ α
  | waiting work => admitted work
  | other => other

/-- The request can act without anybody else acting first. -/
def isReady : Guest σ α → Bool
  | outside _ => true
  | admitted _ => true
  | _ => false

/-- The moment at which the guest wakes, if it sleeps. -/
def wake? : Guest σ α → Option Nat
  | asleep wake _ => some wake
  | _ => none

end Guest

/-- The permits, the queue, and all requests. -/
structure Limiter (σ α : Type) where
  free : Nat
  /-- The places of the waiting requests in `guests`, in order of arrival. -/
  queue : List Nat := []
  guests : List (Guest σ α)
  /-- The state that all handlers share. -/
  shared : σ
  clock : Nat := 0
  /-- No more permits are given out. -/
  closed : Bool := false

namespace Limiter

variable {σ α : Type}

/-- How many permits guests have. -/
def held (limiter : Limiter σ α) : Nat :=
  limiter.guests.countP Guest.holdsPermit

/-- Put a request into another standing. -/
def place (limiter : Limiter σ α) (index : Nat) (guest : Guest σ α) : Limiter σ α :=
  { limiter with guests := limiter.guests.set index guest }

/-- Give a permit back: to the head of the queue, or to nobody. -/
def release (limiter : Limiter σ α) : Limiter σ α :=
  match limiter.queue with
  | [] => { limiter with free := limiter.free + 1 }
  | first :: others =>
      { limiter with queue := others, guests := limiter.guests.modify first Guest.letIn }

/-- A request asks for a permit, and takes one or joins the queue. -/
def arrive (limiter : Limiter σ α) (index : Nat) (work : Activity σ α) : Limiter σ α :=
  if limiter.closed then limiter.place index .refused
  else
    match limiter.free with
    | 0 => { limiter.place index (.waiting work) with queue := limiter.queue ++ [index] }
    | free + 1 => { limiter.place index (.admitted work) with free }

/-- A request asks for a permit, if it has not yet. -/
def ask (limiter : Limiter σ α) (index : Nat) : Limiter σ α :=
  match limiter.guests[index]? with
  | some (.outside work) => limiter.arrive index work
  | _ => limiter

/-- The work that a request can go on with. -/
def working? (limiter : Limiter σ α) (index : Nat) : Option (Activity σ α) :=
  match limiter.guests[index]? with
  | some (.admitted work) => some work
  | some (.asleep wake work) => if wake ≤ limiter.clock then some work else none
  | _ => none

/-- A request with a permit acts until it gives way, sleeps or is answered. -/
def advance (limiter : Limiter σ α) (index : Nat) (work : Activity σ α) : Limiter σ α :=
  let (rest, shared) := work.burst limiter.shared
  let limiter := { limiter with shared }
  match rest with
  | .done value => (limiter.place index (.answered value)).release
  | .pause next => limiter.place index (.admitted next)
  | .sleep milliseconds next => limiter.place index (.asleep (limiter.clock + milliseconds) next)
  | .act effect next => limiter.place index (.admitted (.act effect next))

/-- A request goes away, with its permit or its place in the queue. -/
def leave (limiter : Limiter σ α) (index : Nat) : Limiter σ α :=
  match limiter.guests[index]? with
  | some (.admitted _) => (limiter.place index .gone).release
  | some (.asleep _ _) => (limiter.place index .gone).release
  | some (.waiting _) =>
      { limiter.place index .gone with queue := limiter.queue.erase index }
  | some (.outside _) => limiter.place index .gone
  | _ => limiter

/-- A request goes on with its work, if it can. -/
def act (limiter : Limiter σ α) (index : Nat) : Limiter σ α :=
  match limiter.working? index with
  | some work => limiter.advance index work
  | none => limiter

/-- A request that has not asked for a permit asks first, and goes on at once if it gets one. -/
def turn (limiter : Limiter σ α) (index : Nat) : Limiter σ α :=
  (limiter.ask index).act index

/-- Time passes until the first sleeper wakes, when there is nothing else to do. -/
def settle (limiter : Limiter σ α) : Limiter σ α :=
  if limiter.guests.any Guest.isReady then limiter
  else
    match (limiter.guests.filterMap Guest.wake?).min? with
    | some wake => { limiter with clock := max limiter.clock wake }
    | none => limiter

/-- Every guest has its turn once, and freed permits are handed on. -/
def round (limiter : Limiter σ α) : Limiter σ α :=
  ((List.range limiter.guests.length).foldl turn limiter).settle

/-- Rounds until every request is answered, or as many as are allowed. -/
def rounds (limiter : Limiter σ α) : Nat → Limiter σ α
  | 0 => limiter
  | more + 1 =>
      if limiter.guests.all fun guest => guest.answer?.isSome then limiter
      else limiter.round.rounds more

/-- Requests that have not arrived yet, and all permits free. -/
def ofWorks (permits : Nat) (shared : σ) (works : List (Activity σ α)) : Limiter σ α :=
  { free := permits, guests := works.map .outside, shared }

end Limiter

end PluggableHost.Http
