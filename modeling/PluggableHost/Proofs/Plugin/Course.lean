import PluggableHost.Plugin.Activity

namespace PluggableHost.Plugin

/-!
# Courses of activities

What an activity does by itself, whoever acts in between: each change of the shared
state starts from whatever the state is by then.  The course of a sequence is a
course of its first part followed by one of its second part.  What an activity does
in one go is the beginning of a course.
-/

/-- One step of an activity. -/
inductive Deed (σ : Type) where
  | change (before after : σ)
  | pause
  | sleep (milliseconds : Nat)

namespace Activity

variable {σ α β : Type}

/-- Some deeds of an activity, in order, and what is left of it. -/
inductive Course :
    Activity σ α → List (Deed σ) → Activity σ α → Prop where
  | stay (activity : Activity σ α) :
      Course activity [] activity
  | change
      {effect : σ → σ}
      {next : σ → Activity σ α}
      {deeds : List (Deed σ)}
      {rest : Activity σ α}
      (state : σ)
      (onwards : Course (next (effect state)) deeds rest) :
      Course (act effect next) (.change state (effect state) :: deeds) rest
  | pause
      {next rest : Activity σ α}
      {deeds : List (Deed σ)}
      (onwards : Course next deeds rest) :
      Course (.pause next) (.pause :: deeds) rest
  | sleep
      {next rest : Activity σ α}
      {deeds : List (Deed σ)}
      (milliseconds : Nat)
      (onwards : Course next deeds rest) :
      Course (.sleep milliseconds next) (.sleep milliseconds :: deeds) rest

/-- An activity comes to a result by these deeds. -/
def ComesTo
    (activity : Activity σ α)
    (deeds : List (Deed σ))
    (value : α) : Prop :=
  Course activity deeds (.done value)

/-- What an activity does until it has given way, or is done. -/
def burstDeeds
    (activity : Activity σ α)
    (state : σ) : List (Deed σ) :=
  match activity with
  | act effect next =>
      .change state (effect state) ::
        (next (effect state)).burstDeeds (effect state)
  | done _ => []
  | pause _ => [.pause]
  | sleep milliseconds _ => [.sleep milliseconds]

/-- An activity once others have had their turns. -/
def resumed : Activity σ α → Activity σ α
  | pause next => next
  | sleep _ next => next
  | other => other

variable
  {activity middle rest : Activity σ α}
  {early late deeds : List (Deed σ)}
  {value : α}

/-- What an activity goes through first and then after that is what it goes through. -/
theorem Course.trans
    (first : Course activity early middle)
    (second : Course middle late rest) :
    Course activity (early ++ late) rest := by
  induction first with
  | stay activity => exact second
  | change state onwards inductionHypothesis =>
      exact .change state (inductionHypothesis second)
  | pause onwards inductionHypothesis =>
      exact .pause (inductionHypothesis second)
  | sleep milliseconds onwards inductionHypothesis =>
      exact .sleep milliseconds (inductionHypothesis second)

/-- What an activity does in one go, and what it goes on with. -/
theorem course_burst
    (activity : Activity σ α)
    (state : σ) :
    Course activity (activity.burstDeeds state)
      (activity.burst state).1.resumed := by
  induction activity generalizing state with
  | done value => exact .stay _
  | act effect next inductionHypothesis =>
      exact .change state (inductionHypothesis _ _)
  | pause next inductionHypothesis => exact .pause (.stay next)
  | sleep milliseconds next inductionHypothesis =>
      exact .sleep milliseconds (.stay next)

/-- What is done comes to its result, by no deed. -/
theorem comesTo_pure
    {result : α} :
    (pure result : Activity σ α).ComesTo deeds value ↔
      deeds = [] ∧ value = result := by
  constructor
  · intro course
    cases course
    exact ⟨rfl, rfl⟩
  · rintro ⟨rfl, rfl⟩
    exact .stay _

/-- A sequence comes to a result by way of the result of its first part. -/
theorem comesTo_bind
    {first : Activity σ α}
    {next : α → Activity σ β}
    {result : β} :
    (first >>= next).ComesTo deeds result ↔
      ∃ early late between,
        deeds = early ++ late ∧
          first.ComesTo early between ∧
          (next between).ComesTo late result := by
  constructor
  · intro course
    induction first generalizing deeds with
    | done between =>
        exact ⟨[], deeds, between, rfl, .stay _, course⟩
    | act effect rest inductionHypothesis =>
        cases course with
        | change state onwards =>
            obtain ⟨early, late, between, rfl, before, after⟩ :=
              inductionHypothesis (effect state) onwards
            exact ⟨_, late, between, rfl, .change state before, after⟩
    | pause rest inductionHypothesis =>
        cases course with
        | pause onwards =>
            obtain ⟨early, late, between, rfl, before, after⟩ :=
              inductionHypothesis onwards
            exact ⟨_, late, between, rfl, .pause before, after⟩
    | sleep milliseconds rest inductionHypothesis =>
        cases course with
        | sleep milliseconds onwards =>
            obtain ⟨early, late, between, rfl, before, after⟩ :=
              inductionHypothesis onwards
            exact ⟨_, late, between, rfl, .sleep milliseconds before, after⟩
  · rintro ⟨early, late, between, rfl, before, after⟩
    induction first generalizing early with
    | done value =>
        obtain ⟨rfl, rfl⟩ := comesTo_pure.mp before
        exact after
    | act effect rest inductionHypothesis =>
        cases before with
        | change state onwards =>
            exact .change state (inductionHypothesis _ _ onwards)
    | pause rest inductionHypothesis =>
        cases before with
        | pause onwards =>
            exact .pause (inductionHypothesis _ onwards)
    | sleep milliseconds rest inductionHypothesis =>
        cases before with
        | sleep milliseconds onwards =>
            exact .sleep milliseconds (inductionHypothesis _ onwards)

end Activity

end PluggableHost.Plugin
