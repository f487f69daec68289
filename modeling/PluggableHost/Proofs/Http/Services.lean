import PluggableHost.Http.Posture
import PluggableHost.Proofs.Http.Serving

namespace PluggableHost.Http

open PluggableHost.Config PluggableHost.Plugin Activity

/-!
# Services and their copies

A service is made from a chain and settings, which say how many requests may be in the
chain at once.  Every listener is given a copy of it, and copies may be copied further;
all of them refer to the same counter of permits.  Whatever happens in a house with any
number of services, copies and requests, each service keeps to its own limit, admits
requests in the order in which they have asked, and answers each with what its chain
answers.
-/

variable {σ : Type}

/-- A service, with all requests that have come on one of its copies. -/
structure Service (σ : Type) where
  posture : Posture
  chain : Chain σ
  requests : List Request := []
  reception : Reception σ Response

namespace Service

/-- A service where nobody has come yet. -/
def opening
    (posture : Posture)
    (chain : Chain σ)
    (shared : σ) : Service σ :=
  { posture, chain, reception := .opening posture.workers shared }

/-- A request comes. -/
def receive
    (service : Service σ)
    (request : Request) : Service σ :=
  { service with
    requests := service.requests ++ [request]
    reception :=
      service.reception.after
        (.join (service.posture.service service.chain request)) }

/-- A service after a move. -/
def after
    (service : Service σ)
    (move : Move σ Response) : Service σ :=
  { service with reception := service.reception.after move }

end Service

/-- Services, and the copies that there are of them. -/
structure House (σ : Type) where
  services : List (Service σ) := []
  /-- The number of the service that each copy refers to. -/
  copies : List Nat := []

/-- What may happen next in a house. -/
inductive Occasion (σ : Type) where
  | build (settings : Settings) (chain : Chain σ) (shared : σ)
  | copy (copy : Nat)
  /-- A request comes on a copy of a service. -/
  | receive (copy : Nat) (request : Request)
  | ask (service guest : Nat)
  | act (service guest : Nat)
  | leave (service guest : Nat)
  | wait (milliseconds : Nat)
  /-- The state that the handlers of a service share has changed. -/
  | elsewhere (service : Nat) (shared : σ)

namespace House

/-- A service is made, and the first copy of it; or nothing, if its workers cannot be counted. -/
def built
    (house : House σ)
    (settings : Settings)
    (chain : Chain σ)
    (shared : σ) : House σ :=
  match Posture.ofSettings? settings with
  | none => house
  | some (posture, _) =>
      { services := house.services ++ [.opening posture chain shared]
        copies := house.copies ++ [house.services.length] }

/-- One service changes. -/
def modified
    (house : House σ)
    (number : Nat)
    (change : Service σ → Service σ) : House σ :=
  { house with services := house.services.modify number change }

/-- A house after an occasion. -/
def after
    (house : House σ) : Occasion σ → House σ
  | .build settings chain shared => house.built settings chain shared
  | .copy copy =>
      { house with copies := house.copies ++ house.copies[copy]?.toList }
  | .receive copy request =>
      match house.copies[copy]? with
      | none => house
      | some number =>
          house.modified number fun service => service.receive request
  | .ask number guest =>
      house.modified number fun service => service.after (.ask guest)
  | .act number guest =>
      house.modified number fun service => service.after (.act guest)
  | .leave number guest =>
      house.modified number fun service => service.after (.leave guest)
  | .wait milliseconds =>
      { house with
        services :=
          house.services.map fun service =>
            service.after (.wait milliseconds) }
  | .elsewhere number shared =>
      house.modified number fun service =>
        service.after (.elsewhere shared)

/-- A house after several occasions. -/
def run
    (house : House σ)
    (schedule : List (Occasion σ)) : House σ :=
  schedule.foldl after house

end House

/-- What holds of a service at any time, where so many requests may be in its chain. -/
structure Service.Orderly
    (limit : Nat)
    (service : Service σ) : Prop where
  /-- Every permit is free or held by a request. -/
  counted :
    service.reception.limiter.free + service.reception.limiter.held = limit
  /-- Only requests that have got a permit are, or were, in the chain. -/
  within :
    ∀ number guest,
      service.reception.limiter.guests[number]? = some guest →
      guest.holdsPermit = true ∨ deedsOf number service.reception.log ≠ [] →
      number ∈ entrants service.reception.log
  bounded : service.reception.limiter.held ≤ limit
  /-- A request waits only while other requests hold all permits. -/
  waiting :
    ∀ (number : Nat) (work : Activity σ Response),
      service.reception.limiter.guests[number]? = some (.waiting work) →
      service.reception.limiter.free = 0 ∧
        service.reception.limiter.held = limit
  /-- Those who wait are those in the queue. -/
  queued :
    ∀ number,
      number ∈ service.reception.limiter.queue ↔
        ∃ work,
          service.reception.limiter.guests[number]? = some (.waiting work)
  /-- Requests get their permits in the order in which they have asked, each once. -/
  inOrder :
    (askers service.reception.log).Nodup ∧
      (askers service.reception.log).filter
          (fun number => number ∉ quitters service.reception.log) =
        entrants service.reception.log ++ service.reception.limiter.queue
  /-- The service is never unavailable. -/
  available :
    ∀ guest ∈ service.reception.limiter.guests, guest ≠ .refused
  /-- Whatever a request has done is in the course of its own work. -/
  own :
    ∀ number guest,
      service.reception.limiter.guests[number]? = some guest →
      ∃ request rest,
        service.requests[number]? = some request ∧
          Course (service.posture.service service.chain request)
            (deedsOf number service.reception.log) rest
  /-- Each answer is what the chain has answered to that request. -/
  answered :
    ∀ number response,
      service.reception.limiter.guests[number]? =
        some (.answered response) →
      ∃ request answer,
        service.requests[number]? = some request ∧
          (service.chain.head request).ComesTo
            (deedsOf number service.reception.log) answer ∧
          response = service.posture.apply request.method answer
  /-- Every request can still be answered that has not gone away. -/
  served :
    ∃ moves,
      (∀ move ∈ moves, Move.isPatient move = true) ∧
        ∀ (number : Nat) (guest : Guest σ Response),
          (service.reception.run moves).limiter.guests[number]? =
            some guest →
          guest.answer?.isSome = true ∨
            service.reception.limiter.guests[number]? = some .gone

/-! ## One service -/

/-- A service whose reception is sound, and has received these requests. -/
structure Service.Kept
    (posture : Posture)
    (chain : Chain σ)
    (service : Service σ) : Prop where
  postured : service.posture = posture
  chained : service.chain = chain
  sound : Sound posture.workers 0 service.reception
  received :
    works service.reception.log =
      service.requests.map (service.posture.service service.chain)

variable
  {number : Nat}
  {posture : Posture}
  {chain : Chain σ}
  {service : Service σ}
  {house : House σ}

/-- A new service is kept as it was built. -/
theorem kept_opening
    (posture : Posture)
    (chain : Chain σ)
    (shared : σ) :
    (Service.opening posture chain shared).Kept posture chain where
  postured := rfl
  chained := rfl
  sound := sound_opening posture.workers shared
  received := rfl

namespace Service.Kept

/-- Receiving a request keeps the service as it was built. -/
theorem receive
    (kept : service.Kept posture chain)
    (request : Request) :
    (service.receive request).Kept posture chain where
  postured := kept.postured
  chained := kept.chained
  sound := kept.sound.after (.join _)
  received := by
    simp [Service.receive, Reception.after, Limiter.noted, kept.received]

/-- Nobody joins but with a request. -/
theorem after
    (kept : service.Kept posture chain)
    (move : Move σ Response)
    (other : ∀ work, move ≠ .join work) :
    (service.after move).Kept posture chain where
  postured := kept.postured
  chained := kept.chained
  sound := kept.sound.after move
  received := by
    simp [Service.after, Reception.after, works_noted _ other,
      kept.received]

/-- Every guest has come with a request, and stands where its work has led it. -/
theorem stands
    (kept : service.Kept posture chain)
    {guest : Guest σ Response}
    (there : service.reception.limiter.guests[number]? = some guest) :
    ∃ request,
      service.requests[number]? = some request ∧
        Stands service.reception.log number
          (service.posture.service service.chain request) guest := by
  obtain ⟨work, joined, stands⟩ := kept.sound.stands number guest there
  rw [kept.received, List.getElem?_map] at joined
  obtain ⟨request, received, rfl⟩ := Option.map_eq_some_iff.mp joined
  exact ⟨request, received, stands⟩

/-- A response is what the chain has come to, in the posture of the service. -/
theorem answered
    (kept : service.Kept posture chain)
    {response : Response}
    (there :
      service.reception.limiter.guests[number]? = some (.answered response)) :
    ∃ request answer,
      service.requests[number]? = some request ∧
        (service.chain.head request).ComesTo
          (deedsOf number service.reception.log) answer ∧
        response = service.posture.apply request.method answer := by
  obtain ⟨request, received, -, course⟩ := kept.stands there
  obtain ⟨early, late, answer, split, head, last⟩ :=
    comesTo_bind.mp course
  obtain ⟨rfl, rfl⟩ := comesTo_pure.mp last
  rw [List.append_nil] at split
  exact ⟨request, answer, received, split ▸ head, rfl⟩

/-- A service that is kept as it was built works in order. -/
theorem orderly
    (kept : service.Kept posture chain)
    (positive : 0 < posture.workers) :
    service.Orderly posture.workers := by
  have counted := kept.sound.counted
  constructor
  case counted => simpa using counted
  case bounded => omega
  case within =>
    intro number guest there inside
    obtain ⟨request, -, stands⟩ := kept.stands there
    exact stands.entered inside
  case waiting =>
    intro number work there
    have queued := (kept.sound.queued number).mpr ⟨work, there⟩
    have none := kept.sound.waits (List.ne_nil_of_mem queued)
    exact ⟨none, by omega⟩
  case queued => exact kept.sound.queued
  case inOrder => exact ⟨kept.sound.once, kept.sound.inOrder⟩
  case available =>
    rintro guest member rfl
    obtain ⟨number, there⟩ := List.mem_iff_getElem?.mp member
    obtain ⟨request, -, stands⟩ := kept.stands there
    exact stands
  case own =>
    intro number guest there
    obtain ⟨request, received, stands⟩ := kept.stands there
    obtain ⟨rest, course⟩ := stands.course
    exact ⟨request, rest, received, course⟩
  case answered => exact fun number response => kept.answered
  case served => exact kept.sound.exists_served positive

end Service.Kept

/-! ## All services -/

/-- There is such a service, and it is kept. -/
def House.Keeps
    (number : Nat)
    (posture : Posture)
    (chain : Chain σ)
    (house : House σ) : Prop :=
  ∃ service,
    house.services[number]? = some service ∧ service.Kept posture chain

namespace House.Keeps

/-- A service changes only as it may. -/
theorem modified
    (keeps : house.Keeps number posture chain)
    (other : Nat)
    {change : Service σ → Service σ}
    (fine :
      ∀ service : Service σ,
        service.Kept posture chain → (change service).Kept posture chain) :
    (house.modified other change).Keeps number posture chain := by
  obtain ⟨service, there, kept⟩ := keeps
  unfold Keeps House.modified
  rw [List.getElem?_modify, there]
  by_cases same : other = number
  · exact ⟨change service, by simp [same], fine service kept⟩
  · exact ⟨service, by simp [same], kept⟩

/-- Whatever happens in a house, the services that are there are kept. -/
theorem after
    (keeps : house.Keeps number posture chain)
    (occasion : Occasion σ) :
    (house.after occasion).Keeps number posture chain := by
  cases occasion with
  | build settings other shared =>
      simp only [House.after, House.built]
      split
      · exact keeps
      · obtain ⟨service, there, kept⟩ := keeps
        have inside := (List.getElem?_eq_some_iff.mp there).1
        exact ⟨service, (List.getElem?_append_left inside).trans there, kept⟩
  | copy copy => exact keeps
  | receive copy request =>
      simp only [House.after]
      split
      · exact keeps
      · exact keeps.modified _ fun _ kept => kept.receive request
  | ask other guest =>
      exact keeps.modified other fun _ kept =>
        kept.after (.ask guest) fun _ => nofun
  | act other guest =>
      exact keeps.modified other fun _ kept =>
        kept.after (.act guest) fun _ => nofun
  | leave other guest =>
      exact keeps.modified other fun _ kept =>
        kept.after (.leave guest) fun _ => nofun
  | wait milliseconds =>
      obtain ⟨service, there, kept⟩ := keeps
      refine ⟨_, ?_, kept.after (.wait milliseconds) fun _ => nofun⟩
      simp only [House.after, List.getElem?_map, there, Option.map_some]
  | elsewhere other shared =>
      exact keeps.modified other fun _ kept =>
        kept.after (.elsewhere shared) fun _ => nofun

/-- A service stays as it was built whatever happens in its house. -/
theorem run
    (keeps : house.Keeps number posture chain)
    (schedule : List (Occasion σ)) :
    (house.run schedule).Keeps number posture chain := by
  induction schedule generalizing house with
  | nil => exact keeps
  | cons occasion rest inductionHypothesis =>
      exact inductionHypothesis (keeps.after occasion)

end House.Keeps

/-! ## Services of settings -/

/-- The posture that settings ask for whose workers can be counted. -/
def Posture.ofCountable (settings : Settings) : Posture where
  server := (serverHeader settings.serverString).1
  keepsAlive := settings.alwaysSetKeepAlive
  workers := settings.workerThreads.toNat

/-- Settings with a countable number of workers have a posture. -/
theorem ofSettings?_of_countable
    {settings : Settings}
    (countable : settings.workerThreads.toNat ≤ mostPermits) :
    Posture.ofSettings? settings =
      some
        (.ofCountable settings,
          (serverHeader settings.serverString).2) := by
  rw [Posture.ofSettings?, if_neg (Nat.not_lt.mpr countable)]
  rfl

/-- Settings whose workers can be counted make a service. -/
theorem built_of_countable
    (house : House σ)
    {settings : Settings}
    (countable : settings.workerThreads.toNat ≤ mostPermits)
    (chain : Chain σ)
    (shared : σ) :
    house.after (.build settings chain shared) =
      { services :=
          house.services ++ [.opening (.ofCountable settings) chain shared]
        copies := house.copies ++ [house.services.length] } := by
  simp only [House.after, House.built, ofSettings?_of_countable countable]

/-- A service that has been made stays, whatever happens afterwards. -/
theorem keeps_of_countable
    (house : House σ)
    {settings : Settings}
    (countable : settings.workerThreads.toNat ≤ mostPermits)
    (chain : Chain σ)
    (shared : σ)
    (schedule : List (Occasion σ)) :
    ((house.after (.build settings chain shared)).run schedule).Keeps
      house.services.length (.ofCountable settings) chain := by
  refine House.Keeps.run ?_ schedule
  rw [built_of_countable house countable]
  exact ⟨_, List.getElem?_concat_length, kept_opening _ chain shared⟩

/--
A service with a number of workers that can be counted lets so many requests into its
chain at once, in the order in which they have asked, whichever of its copies they have
come on, and answers each of them with what the chain answers.
-/
theorem limitsWorkers
    (settings : Settings)
    (positive : 1 ≤ settings.workerThreads.toNat)
    (countable : settings.workerThreads.toNat ≤ mostPermits)
    (house : House σ)
    (chain : Chain σ)
    (shared : σ)
    (schedule : List (Occasion σ)) :
    let number := house.services.length
    let opened := house.after (.build settings chain shared)
    opened.copies = house.copies ++ [number] ∧
      ∃ service,
        (opened.run schedule).services[number]? = some service ∧
          service.chain = chain ∧
          (Posture.ofSettings? settings).map Prod.fst =
            some service.posture ∧
          service.Orderly settings.workerThreads.toNat := by
  intro number opened
  obtain ⟨service, there, kept⟩ :=
    keeps_of_countable house countable chain shared schedule
  refine ⟨congrArg House.copies (built_of_countable house countable chain shared),
    service, there, kept.chained, ?_, ?_⟩
  · rw [ofSettings?_of_countable countable, kept.postured]
    rfl
  · exact kept.orderly positive

/-- With one worker, who asks second waits, on whichever copy it has come. -/
theorem limitsWorkers_one :
    let settings : Settings := { workerThreads := 1 }
    let chain : Chain Unit :=
      { head := fun _ => .pause (.done {}), links := [] }
    let house :=
      (({} : House Unit).after (.build settings chain ())).run
        [.copy 0, .receive 0 {}, .receive 1 {}, .ask 0 1, .ask 0 0,
          .act 0 1]
    ∃ service,
      house.services[0]? = some service ∧
        service.Orderly 1 ∧
        service.reception.limiter.queue = [0] := by
  intro settings chain house
  obtain ⟨-, service, there, -, -, orderly⟩ :=
    limitsWorkers settings (by decide) (by decide) {} chain ()
      [.copy 0, .receive 0 {}, .receive 1 {}, .ask 0 1, .ask 0 0, .act 0 1]
  refine ⟨service, there, orderly, ?_⟩
  have queues :
      (house.services[0]?.map fun service =>
          service.reception.limiter.queue) =
        some [0] := by
    decide +kernel
  rw [show house.services[0]? = some service from there] at queues
  exact Option.some.inj queues

end PluggableHost.Http
