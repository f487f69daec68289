import PluggableHost.Proofs.Http.Services

namespace PluggableHost.Http

open PluggableHost.Config PluggableHost.Plugin

/-!
# Twins

Two services of one chain whose postures differ in nothing but the number of workers.
While either has a worker for every request that has come, nobody has to wait; so
whatever happens to both, every request stands at the one where it stands at the other,
and has got the same response.
-/

variable
  {σ α : Type}
  {permits number : Nat}

/-! ## Limiters with permits to spare -/

namespace Limiter

/-- Limiters that differ in nothing but the permits that are free. -/
def Alike (first second : Limiter σ α) : Prop :=
  ∃ free, second = { first with free }

/-- Whoever asks next gets a permit. -/
structure Roomy (limiter : Limiter σ α) : Prop where
  unclosed : limiter.closed = false
  empty : limiter.queue = []
  spare :
    ∀ (number : Nat) (work : Activity σ α),
      limiter.guests[number]? = some (.outside work) → limiter.free ≠ 0

/-- Where a permit is free it is given to who asks. -/
theorem arrive_of_free
    {limiter : Limiter σ α}
    (unclosed : limiter.closed = false)
    {spare : Nat}
    (free : limiter.free = spare + 1)
    (number : Nat)
    (work : Activity σ α) :
    limiter.arrive number work =
      { limiter.place number (.admitted work) with free := spare } := by
  rw [arrive, unclosed, if_neg Bool.false_ne_true, free]

namespace Alike

variable {first second : Limiter σ α}

/-- Limiters that are alike stay so when a permit is freed. -/
theorem release
    (alike : first.Alike second)
    (empty : first.queue = []) :
    first.release.Alike second.release := by
  obtain ⟨free, rfl⟩ := alike
  unfold Limiter.release
  dsimp only
  rw [empty]
  exact ⟨free + 1, rfl⟩

/-- Limiters with room that are alike stay so when somebody asks. -/
theorem ask
    (alike : first.Alike second)
    (roomy : first.Roomy)
    (other : second.Roomy)
    (number : Nat) :
    (first.ask number).Alike (second.ask number) := by
  obtain ⟨free, rfl⟩ := alike
  unfold Limiter.ask
  dsimp only
  split
  · rename_i work found
    obtain ⟨spare, some⟩ :=
      Nat.exists_eq_succ_of_ne_zero (roomy.spare number work found)
    obtain ⟨rest, also⟩ :=
      Nat.exists_eq_succ_of_ne_zero (other.spare number work found)
    rw [arrive_of_free roomy.unclosed some,
      arrive_of_free other.unclosed also]
    exact ⟨rest, rfl⟩
  · exact ⟨free, rfl⟩

/-- Limiters with room that are alike stay so when somebody acts. -/
theorem act
    (alike : first.Alike second)
    (roomy : first.Roomy)
    (number : Nat) :
    (first.act number).Alike (second.act number) := by
  obtain ⟨free, rfl⟩ := alike
  have same :
      ({ first with free } : Limiter σ α).working? number =
        first.working? number :=
    rfl
  unfold Limiter.act
  rw [same]
  split
  · rename_i work _
    unfold Limiter.advance
    dsimp only
    split
    · exact release ⟨free, rfl⟩ roomy.empty
    · exact ⟨free, rfl⟩
    · exact ⟨free, rfl⟩
    · exact ⟨free, rfl⟩
  · exact ⟨free, rfl⟩

/-- Limiters with room that are alike stay so when somebody leaves. -/
theorem leave
    (alike : first.Alike second)
    (roomy : first.Roomy)
    (number : Nat) :
    (first.leave number).Alike (second.leave number) := by
  obtain ⟨free, rfl⟩ := alike
  unfold Limiter.leave
  dsimp only
  split
  · exact release ⟨free, rfl⟩ roomy.empty
  · exact release ⟨free, rfl⟩ roomy.empty
  · exact ⟨free, rfl⟩
  · exact ⟨free, rfl⟩
  · exact ⟨free, rfl⟩

/-- Limiters with permits to spare stay alike. -/
theorem after
    (alike : first.Alike second)
    (roomy : first.Roomy)
    (other : second.Roomy)
    (move : Move σ α) :
    (first.after move).Alike (second.after move) := by
  cases move with
  | ask number => exact alike.ask roomy other number
  | act number => exact alike.act roomy number
  | leave number => exact alike.leave roomy number
  | join work | wait milliseconds | elsewhere shared =>
      obtain ⟨free, rfl⟩ := alike
      exact ⟨free, rfl⟩

end Alike

end Limiter

/-- With a permit for every guest, one is free while a guest holds none. -/
theorem Sound.spare
    {reception : Reception σ α}
    (sound : Sound permits 0 reception)
    (enough : reception.limiter.guests.length ≤ permits)
    {guest : Guest σ α}
    (found : reception.limiter.guests[number]? = some guest)
    (without : guest.holdsPermit = false) :
    reception.limiter.free ≠ 0 := by
  have fewer :
      reception.limiter.held < reception.limiter.guests.length := by
    refine Nat.lt_of_le_of_ne List.countP_le_length fun all => ?_
    have holds :=
      List.countP_eq_length.mp all guest (List.mem_of_getElem? found)
    exact Bool.false_ne_true (without.symm.trans holds)
  have counted := sound.counted
  omega

/--
A limiter has room if there are no more guests than permits: who waits holds no permit,
and then one is free.
-/
theorem Sound.roomy
    {reception : Reception σ α}
    (sound : Sound permits 0 reception)
    (enough : reception.limiter.guests.length ≤ permits) :
    reception.limiter.Roomy where
  unclosed := sound.unclosed
  empty := by
    by_contra waiting
    obtain ⟨number, queued⟩ := List.exists_mem_of_ne_nil _ waiting
    obtain ⟨work, found⟩ := (sound.queued number).mp queued
    exact sound.spare enough found rfl (sound.waits waiting)
  spare := fun _ _ found => sound.spare enough found rfl

/-! ## Services that differ in their workers -/

/-- Postures that differ in nothing but the number of workers. -/
structure Posture.Twins (first second : Posture) : Prop where
  server : first.server = second.server
  keepsAlive : first.keepsAlive = second.keepsAlive

variable
  {posture other : Posture}
  {chain : Chain σ}
  {first second : Service σ}
  {house yard : House σ}

/-- The workers take no part in what is answered. -/
theorem Posture.Twins.apply
    (twins : posture.Twins other) :
    posture.apply = other.apply := by
  funext method response
  rw [Posture.apply, Posture.apply, twins.server, twins.keepsAlive]

/-- Postures that are twins serve alike. -/
theorem Posture.Twins.service
    (twins : posture.Twins other)
    (chain : Chain σ) :
    posture.service chain = other.service chain := by
  unfold Posture.service
  rw [twins.apply]

/-- Services that have received the same requests, and serve them alike while they can. -/
structure Service.Twins
    (posture other : Posture)
    (chain : Chain σ)
    (first second : Service σ) : Prop where
  kept : first.Kept posture chain
  keptOther : second.Kept other chain
  requests : first.requests = second.requests
  alike :
    first.requests.length ≤ posture.workers →
    first.requests.length ≤ other.workers →
    first.reception.limiter.Alike second.reception.limiter

/-- Every guest has come with one request. -/
theorem Service.Kept.length_guests
    (kept : first.Kept posture chain) :
    first.reception.limiter.guests.length = first.requests.length := by
  rw [← kept.sound.known, kept.received, List.length_map]

namespace Service.Twins

/-- New services of twin postures are twins. -/
theorem opening
    (posture other : Posture)
    (chain : Chain σ)
    (shared : σ) :
    Service.Twins posture other chain
      (.opening posture chain shared) (.opening other chain shared) where
  kept := kept_opening posture chain shared
  keptOther := kept_opening other chain shared
  requests := rfl
  alike := fun _ _ => ⟨other.workers, rfl⟩

/-- The same move is made at both, when both have a worker for every request. -/
theorem move
    (twins : Service.Twins posture other chain first second)
    (enough : first.requests.length ≤ posture.workers)
    (enoughOther : first.requests.length ≤ other.workers)
    (move : Move σ Response) :
    (first.reception.limiter.after move).Alike
      (second.reception.limiter.after move) := by
  refine (twins.alike enough enoughOther).after ?_ ?_ move
  · exact twins.kept.sound.roomy (twins.kept.length_guests ▸ enough)
  · refine twins.keptOther.sound.roomy ?_
    rw [twins.keptOther.length_guests, ← twins.requests]
    exact enoughOther

/--
Twins that receive the same request stay twins: there was room for one request less, so
they were alike before.
-/
theorem receive
    (twins : Service.Twins posture other chain first second)
    (same : posture.Twins other)
    (request : Request) :
    Service.Twins posture other chain
      (first.receive request) (second.receive request) where
  kept := twins.kept.receive request
  keptOther := twins.keptOther.receive request
  requests := congrArg (· ++ [request]) twins.requests
  alike := by
    intro enough enoughOther
    have more :
        (first.receive request).requests.length =
          first.requests.length + 1 :=
      List.length_append
    have work :
        second.posture.service second.chain request =
          first.posture.service first.chain request := by
      rw [twins.kept.postured, twins.kept.chained, twins.keptOther.postured,
        twins.keptOther.chained, same.service chain]
    have joined :=
      twins.move (by omega) (by omega)
        (.join (first.posture.service first.chain request))
    simp only [Service.receive, Reception.after, work]
    exact joined

/-- Twins that make the same move stay twins. -/
theorem after
    (twins : Service.Twins posture other chain first second)
    (move : Move σ Response)
    (present : ∀ work, move ≠ .join work) :
    Service.Twins posture other chain
      (first.after move) (second.after move) where
  kept := twins.kept.after move present
  keptOther := twins.keptOther.after move present
  requests := twins.requests
  alike := fun enough enoughOther => twins.move enough enoughOther move

end Service.Twins

/-! ## Houses that differ in one service -/

/-- Houses with the same copies, where the services of a number are twins. -/
structure House.Twins
    (number : Nat)
    (posture other : Posture)
    (chain : Chain σ)
    (house yard : House σ) : Prop where
  copies : house.copies = yard.copies
  many : house.services.length = yard.services.length
  twins :
    ∃ first second,
      house.services[number]? = some first ∧
        yard.services[number]? = some second ∧
        Service.Twins posture other chain first second

namespace House.Twins

/-- Twins stay so when the same is done to a service in both houses. -/
theorem modified
    (twins : House.Twins number posture other chain house yard)
    (place : Nat)
    {change : Service σ → Service σ}
    (fine :
      ∀ first second : Service σ,
        Service.Twins posture other chain first second →
        Service.Twins posture other chain (change first) (change second)) :
    House.Twins number posture other chain
      (house.modified place change) (yard.modified place change) := by
  obtain ⟨first, second, there, beside, services⟩ := twins.twins
  refine ⟨twins.copies, by simpa [House.modified] using twins.many, ?_⟩
  unfold House.modified
  dsimp only
  rw [List.getElem?_modify, List.getElem?_modify, there, beside]
  by_cases same : place = number
  · exact ⟨change first, change second, by simp [same], by simp [same],
      fine first second services⟩
  · exact ⟨first, second, by simp [same], by simp [same], services⟩

/-- Whatever happens in both houses, the services stay twins. -/
theorem after
    (twins : House.Twins number posture other chain house yard)
    (same : posture.Twins other)
    (occasion : Occasion σ) :
    House.Twins number posture other chain
      (house.after occasion) (yard.after occasion) := by
  have moved :=
    fun (move : Move σ Response) (present : ∀ work, move ≠ .join work)
      (first second : Service σ)
      (services : Service.Twins posture other chain first second) =>
    services.after move present
  cases occasion with
  | build settings added shared =>
      simp only [House.after, House.built]
      split
      · exact twins
      · obtain ⟨first, second, there, beside, services⟩ := twins.twins
        refine ⟨by simp [twins.copies, twins.many], by simp [twins.many],
          first, second, ?_, ?_, services⟩
        · rwa [List.getElem?_append_left
            (List.getElem?_eq_some_iff.mp there).1]
        · rwa [List.getElem?_append_left
            (List.getElem?_eq_some_iff.mp beside).1]
  | copy copy =>
      exact ⟨by simp [House.after, twins.copies], twins.many, twins.twins⟩
  | receive copy request =>
      simp only [House.after, twins.copies]
      split
      · exact twins
      · exact twins.modified _ fun _ _ services =>
          services.receive same request
  | ask place guest =>
      exact twins.modified place (moved (.ask guest) (by simp))
  | act place guest =>
      exact twins.modified place (moved (.act guest) (by simp))
  | leave place guest =>
      exact twins.modified place (moved (.leave guest) (by simp))
  | wait milliseconds =>
      obtain ⟨first, second, there, beside, services⟩ := twins.twins
      refine ⟨twins.copies, by simp [House.after, twins.many], _, _, ?_, ?_,
        moved (.wait milliseconds) (by simp) _ _ services⟩
      · simp only [House.after, List.getElem?_map, there, Option.map_some]
      · simp only [House.after, List.getElem?_map, beside, Option.map_some]
  | elsewhere place shared =>
      exact twins.modified place (moved (.elsewhere shared) (by simp))

/-- Twin houses stay so whatever happens in both. -/
theorem run
    (twins : House.Twins number posture other chain house yard)
    (same : posture.Twins other)
    (schedule : List (Occasion σ)) :
    House.Twins number posture other chain
      (house.run schedule) (yard.run schedule) := by
  induction schedule generalizing house yard with
  | nil => exact twins
  | cons occasion rest inductionHypothesis =>
      exact inductionHypothesis (twins.after same occasion)

end House.Twins

/-- Settings that make twins make them in houses that are alike otherwise. -/
theorem twins_of_countable
    (house : House σ)
    {settings others : Settings}
    (countable : settings.workerThreads.toNat ≤ mostPermits)
    (countableOther : others.workerThreads.toNat ≤ mostPermits)
    (same : (Posture.ofCountable settings).Twins (.ofCountable others))
    (chain : Chain σ)
    (shared : σ)
    (schedule : List (Occasion σ)) :
    House.Twins house.services.length
      (.ofCountable settings) (.ofCountable others) chain
      ((house.after (.build settings chain shared)).run schedule)
      ((house.after (.build others chain shared)).run schedule) := by
  refine House.Twins.run ?_ same schedule
  rw [built_of_countable house countable,
    built_of_countable house countableOther]
  exact
    { copies := rfl
      many := by simp
      twins :=
        ⟨_, _, List.getElem?_concat_length, List.getElem?_concat_length,
          .opening _ _ chain shared⟩ }

end PluggableHost.Http
