import PluggableHost.Plugin.Stock
import PluggableHost.Proofs.Plugin.Course

namespace PluggableHost.Plugin

open PluggableHost.Http Activity

/-!
# The passage of a request through links

A link has a logic: before the next handler is asked it changes the request or
answers by itself, and after the next handler it changes the response.  A request
passes links from the outside inwards up to the first that answers, or to the root
handler; the response passes the links that have delegated, from the inside outwards.
The deeds of a request are those of the parts of its passage in this order, whatever
else goes on meanwhile.
-/

/-- What a link decides about a request. -/
inductive Verdict (σ : Type) where
  /-- It answers without asking further. -/
  | answer (response : Response)
  /-- It passes a request on, and deals with the response afterwards. -/
  | delegate
      (request : Request)
      (after : Response → Activity σ Response)

/-- The logic of a link, which asks the next handler once at most. -/
structure Logic (σ : Type) where
  before : Request → Activity σ (Verdict σ)

variable {σ : Type}

/-- A handler with a logic around it. -/
def Logic.around
    (logic : Logic σ)
    (next : Handler σ) : Handler σ := fun request => do
  match ← logic.before request with
  | .answer response => return response
  | .delegate passed after => do
      let returned ← next passed
      after returned

/-- How a request went through a link that delegated. -/
structure Crossing (σ : Type) where
  logic : Logic σ
  /-- The request in front of the link, and behind it. -/
  received : Request
  passed : Request
  /-- What the link has to do with the response. -/
  after : Response → Activity σ Response
  /-- The response behind the link, and in front of it. -/
  returned : Response
  response : Response
  /-- The deeds on the way in, and on the way out. -/
  inwards : List (Deed σ)
  outwards : List (Deed σ)

/-- The deeds are those of the logic. -/
structure Crossing.Sound (crossing : Crossing σ) : Prop where
  inwards :
    (crossing.logic.before crossing.received).ComesTo crossing.inwards
      (.delegate crossing.passed crossing.after)
  outwards :
    (crossing.after crossing.returned).ComesTo crossing.outwards
      crossing.response

/-- Crossings one inside the other, from a request and its response to those inside. -/
inductive Crossed :
    Request → Response → List (Crossing σ) → Request → Response → Prop where
  | inside
      (request : Request)
      (response : Response) :
      Crossed request response [] request response
  | link
      {crossing : Crossing σ}
      {crossings : List (Crossing σ)}
      {request : Request}
      {response : Response}
      (sound : crossing.Sound)
      (inner :
        Crossed crossing.passed crossing.returned crossings request
          response) :
      Crossed crossing.received crossing.response
        (crossing :: crossings) request response

/-- Where a passage turns: at the root, if all links have delegated, or else at a link. -/
def TurnsAt
    (logics : List (Logic σ))
    (root : Handler σ)
    (delegating : List (Logic σ))
    (request : Request)
    (deeds : List (Deed σ))
    (response : Response) : Prop :=
  (logics = delegating ∧ (root request).ComesTo deeds response) ∨
    ∃ answering unvisited,
      logics = delegating ++ answering :: unvisited ∧
        (answering.before request).ComesTo deeds (.answer response)

/-- A request passes links inwards, is answered, and its response passes back outwards. -/
def Passage
    (logics : List (Logic σ))
    (root : Handler σ)
    (request : Request)
    (deeds : List (Deed σ))
    (response : Response) : Prop :=
  ∃ crossings inner answer turning,
    Crossed request response crossings inner answer ∧
      TurnsAt logics root (crossings.map Crossing.logic) inner turning
        answer ∧
      deeds =
        crossings.flatMap Crossing.inwards ++ turning ++
          crossings.reverse.flatMap Crossing.outwards

/-! ## Links one by one -/

/-- A link answers, or a request crosses it to what is inside. -/
def Through
    (logic : Logic σ)
    (inside : Request → List (Deed σ) → Response → Prop)
    (request : Request)
    (deeds : List (Deed σ))
    (response : Response) : Prop :=
  (logic.before request).ComesTo deeds (.answer response) ∨
    ∃ (crossing : Crossing σ) (middle : List (Deed σ)),
      crossing.Sound ∧
        crossing.logic = logic ∧
        crossing.received = request ∧
        crossing.response = response ∧
        inside crossing.passed middle crossing.returned ∧
        deeds = crossing.inwards ++ middle ++ crossing.outwards

variable
  {logic : Logic σ}
  {logics : List (Logic σ)}
  {root next : Handler σ}
  {request : Request}
  {deeds : List (Deed σ)}
  {response : Response}

/-- What a handler with a logic around it comes to. -/
theorem comesTo_around :
    (logic.around next request).ComesTo deeds response ↔
      Through logic (fun passed => (next passed).ComesTo) request deeds
        response := by
  rw [Logic.around, comesTo_bind]
  constructor
  · rintro ⟨early, late, verdict, rfl, before, onwards⟩
    cases verdict with
    | answer answered =>
        obtain ⟨rfl, rfl⟩ := comesTo_pure.mp onwards
        rw [List.append_nil]
        exact .inl before
    | delegate passed after =>
        obtain ⟨middle, last, returned, rfl, within, behind⟩ :=
          comesTo_bind.mp onwards
        refine .inr
          ⟨⟨logic, request, passed, after, returned, response, early,
              last⟩,
            middle, ⟨before, behind⟩, rfl, rfl, rfl, within, ?_⟩
        rw [List.append_assoc]
  · rintro (answered |
      ⟨crossing, middle, sound, rfl, rfl, rfl, within, rfl⟩)
    · exact ⟨deeds, [], _, (List.append_nil _).symm, answered,
        comesTo_pure.mpr ⟨rfl, rfl⟩⟩
    · refine ⟨crossing.inwards, middle ++ crossing.outwards, _,
        List.append_assoc _ _ _, sound.inwards, ?_⟩
      exact comesTo_bind.mpr
        ⟨middle, crossing.outwards, _, rfl, within, sound.outwards⟩

/-- A passage through no link is what the root handler does. -/
theorem passage_nil :
    Passage [] root request deeds response ↔
      (root request).ComesTo deeds response := by
  constructor
  · rintro ⟨crossings, inner, answer, turning, crossed,
      ⟨none, answered⟩ | ⟨answering, unvisited, some, -⟩, rfl⟩
    · obtain rfl := List.map_eq_nil_iff.mp none.symm
      cases crossed
      simpa using answered
    · exact absurd some (by simp)
  · intro answered
    exact ⟨[], request, response, deeds, .inside _ _,
      .inl ⟨rfl, answered⟩, by simp⟩

/-- A passage that has crossed the first link turns where the rest of it turns. -/
theorem turnsAt_cons
    {first : Logic σ}
    {delegating : List (Logic σ)} :
    TurnsAt (logic :: logics) root (first :: delegating) request deeds
        response ↔
      first = logic ∧
        TurnsAt logics root delegating request deeds response := by
  constructor
  · rintro (⟨shape, answered⟩ | ⟨answering, unvisited, shape, answered⟩)
    · obtain ⟨rfl, rfl⟩ := List.cons.inj shape
      exact ⟨rfl, .inl ⟨rfl, answered⟩⟩
    · obtain ⟨rfl, rfl⟩ := List.cons.inj shape
      exact ⟨rfl, .inr ⟨answering, unvisited, rfl, answered⟩⟩
  · rintro ⟨rfl, ⟨rfl, answered⟩ | ⟨answering, unvisited, rfl, answered⟩⟩
    · exact .inl ⟨rfl, answered⟩
    · exact .inr ⟨answering, unvisited, rfl, answered⟩

/-- A passage turns at the first link, or crosses it. -/
theorem passage_cons :
    Passage (logic :: logics) root request deeds response ↔
      Through logic (Passage logics root) request deeds response := by
  constructor
  · rintro ⟨crossings, inner, answer, turning, crossed, turns, rfl⟩
    cases crossed with
    | inside =>
        rcases turns with ⟨none, -⟩ | ⟨answering, unvisited, shape, answered⟩
        · exact absurd none (by simp)
        · obtain ⟨rfl, -⟩ := List.cons.inj shape
          left
          simpa using answered
    | @link crossing crossings _ _ sound within =>
        obtain ⟨own, turns⟩ := turnsAt_cons.mp turns
        exact .inr
          ⟨crossing,
            crossings.flatMap Crossing.inwards ++ turning ++
              crossings.reverse.flatMap Crossing.outwards,
            sound, own, rfl, rfl,
            ⟨crossings, inner, answer, turning, within, turns, rfl⟩,
            by simp⟩
  · rintro (answered |
      ⟨crossing, middle, sound, own, rfl, rfl,
        ⟨crossings, inner, answer, turning, within, turns, rfl⟩, rfl⟩)
    · exact ⟨[], request, response, deeds, .inside _ _,
        .inr ⟨logic, logics, rfl, answered⟩, by simp⟩
    · exact ⟨crossing :: crossings, inner, answer, turning,
        .link sound within, turnsAt_cons.mpr ⟨own, turns⟩, by simp⟩

/-- Logics one around the other make requests pass. -/
theorem comesTo_foldr_around :
    (logics.foldr Logic.around root request).ComesTo deeds response ↔
      Passage logics root request deeds response := by
  induction logics generalizing request deeds response with
  | nil =>
      exact passage_nil.symm
  | cons logic logics inductionHypothesis =>
      rw [List.foldr_cons, comesTo_around, passage_cons]
      simp only [Through, inductionHypothesis]

/-- The second link answers, so neither the third nor the root is asked. -/
example :
    let links : List (String × StockMiddleware) :=
      [("a", .trace), ("b", .short { status := 403 }), ("c", .trace)]
    let head :=
      links.foldr
        (fun link next => link.2.wrap link.1 next)
        (StockHandler.fixed {}).handler
    (head {}).finish {} =
      ({ status := 403 }, { events := ["a:pre", "b:pre", "a:post"] }) := by
  decide +kernel

end PluggableHost.Plugin
