namespace PluggableHost.Plugin

/-!
# Activities

What a handler does with a request, as data: it changes a state that it shares
with others, gives way to others, sleeps, and comes to a result. Between two
points at which it gives way nobody else acts.
-/

/-- An activity over a shared state. -/
inductive Activity (σ α : Type) where
  | done (value : α)
  /-- Change the shared state and go on with what it is then. -/
  | act (effect : σ → σ) (next : σ → Activity σ α)
  /-- Give way to others. -/
  | pause (next : Activity σ α)
  | sleep (milliseconds : Nat) (next : Activity σ α)

namespace Activity

variable {σ α β : Type}

/-- Go on with the result of an activity. -/
def bind (activity : Activity σ α) (next : α → Activity σ β) : Activity σ β :=
  match activity with
  | done value => next value
  | act effect rest => act effect fun state => (rest state).bind next
  | pause rest => pause (rest.bind next)
  | sleep milliseconds rest => sleep milliseconds (rest.bind next)

/-- Activities follow each other. -/
instance : Monad (Activity σ) where
  pure := done
  bind := bind

/-- Change the state. -/
def change (effect : σ → σ) : Activity σ Unit := act effect fun _ => done ()

/-- Change the state and see what it has become. -/
def changeAndGet (effect : σ → σ) : Activity σ σ := act effect done

/-- Give way a number of times. -/
def pauses : Nat → Activity σ Unit
  | 0 => done ()
  | count + 1 => pause (pauses count)

/-- The activity up to the next point at which it gives way. -/
def burst (activity : Activity σ α) (state : σ) : Activity σ α × σ :=
  match activity with
  | act effect next => (next (effect state)).burst (effect state)
  | other => (other, state)

/-- The result of an activity that is alone, and the state that it leaves. -/
def finish (activity : Activity σ α) (state : σ) : α × σ :=
  match activity with
  | done value => (value, state)
  | act effect next => (next (effect state)).finish (effect state)
  | pause next => next.finish state
  | sleep _ next => next.finish state

end Activity

end PluggableHost.Plugin
