import PluggableHost.Proofs.Registry.Holdings

namespace PluggableHost.Registry

open List

/-!
# Desks

Any number of calls of one directory, under way at the same time.  Registering and
looking up are one step each.  Unregistering takes the endpoint out of its bucket in
one step and, if that has left the bucket empty, comes back in another to drop the
bucket, which somebody may have filled by then.  What happens next at a desk is free:
somebody makes a call, or one call takes a step.

Whatever calls overlap, look-ups answer as if there were one roll of endpoints on which
every call takes effect with its first step, which is the main result of the module.
-/

namespace Desk

/-- What may be asked of a directory. -/
inductive Demand where
  | register (endpoint : Endpoint)
  | unregister (endpoint : Endpoint)
  | lookup (serviceId : String)
  deriving Repr, DecidableEq

/-- What is left of a call. -/
inductive Call where
  | register (endpoint : Endpoint)
  | unregister (endpoint : Endpoint)
  /-- An unregistering that has left a bucket empty. -/
  | sweep (serviceId : String)
  | lookup (serviceId : String)
  | found (endpoints : List Endpoint)
  | done
  deriving Repr, DecidableEq

/-- The call that meets a request. -/
def Demand.call : Demand → Call
  | register endpoint => .register endpoint
  | unregister endpoint => .unregister endpoint
  | lookup serviceId => .lookup serviceId

namespace Call

/-- The next step of a call and what it makes of the directory, unless the call is over. -/
def step
    (directory : Directory) : Call → Option (Call × Directory)
  | register endpoint => some (done, directory.register endpoint)
  | unregister endpoint =>
      let left := directory.withdraw endpoint
      let next :=
        if left.isBare endpoint.serviceId then sweep endpoint.serviceId
        else done
      some (next, left)
  | sweep serviceId => some (done, directory.dropIfEmpty serviceId)
  | lookup serviceId =>
      some (found (directory.lookup serviceId), directory)
  | found _ => none
  | done => none

/-- What a call does to the roll with its next step. -/
def change? : Call → Option Change
  | register endpoint => some (.enter endpoint)
  | unregister endpoint => some (.strike endpoint)
  | _ => none

end Call

/-- One step of a call: the call and the directory before it, and after it. -/
structure Act where
  actor : Nat
  call : Call
  before : Directory
  next : Call
  after : Directory

/-- What is done to the roll by steps, in order. -/
def changes (history : List Act) : List Change :=
  history.filterMap fun act => act.call.change?

/-- What may happen at a desk. -/
inductive Occasion where
  | demand (demand : Demand)
  | turn (actor : Nat)

end Desk

/-- A directory, the calls of it, and what they have done, in order. -/
structure Desk where
  directory : Directory := {}
  calls : List Desk.Call := []
  history : List Desk.Act := []

namespace Desk

variable
  {desk : Desk}
  {directory after : Directory}
  {actor : Nat}
  {call next : Call}
  {endpoint : Endpoint}

/-- Somebody makes a call. -/
def demanded
    (desk : Desk)
    (demand : Demand) : Desk :=
  { desk with calls := desk.calls ++ [demand.call] }

/-- A call has taken a step. -/
def stepped
    (desk : Desk)
    (actor : Nat)
    (call next : Call)
    (after : Directory) : Desk :=
  { directory := after
    calls := desk.calls.set actor next
    history :=
      desk.history ++
        [{ actor, call, before := desk.directory, next, after }] }

/-- An occasion.  Turns of calls that are over change nothing. -/
def following (desk : Desk) : Occasion → Desk
  | .demand demand => desk.demanded demand
  | .turn actor =>
      match desk.calls[actor]? with
      | none => desk
      | some call =>
          match call.step desk.directory with
          | none => desk
          | some (next, after) => desk.stepped actor call next after

/-- Occasions in order. -/
def run
    (desk : Desk)
    (schedule : List Occasion) : Desk :=
  schedule.foldl following desk

/-- A turn leaves the desk as it is, or is the step of some call. -/
theorem following_turn
    (desk : Desk)
    (actor : Nat) :
    desk.following (.turn actor) = desk ∨
      ∃ call next after,
        desk.calls[actor]? = some call ∧
        call.step desk.directory = some (next, after) ∧
        desk.following (.turn actor) =
          desk.stepped actor call next after := by
  cases found : desk.calls[actor]? with
  | none =>
      exact .inl (by simp [following, found])
  | some call =>
      cases taken : call.step desk.directory with
      | none =>
          exact .inl (by simp [following, found, taken])
      | some step =>
          exact .inr ⟨call, step.1, step.2, rfl, taken,
            by simp [following, found, taken]⟩

/-- What is preserved by new calls and by steps of calls holds under every schedule. -/
theorem run_induct
    {invariant : Desk → Prop}
    (demanded :
      ∀ desk demand, invariant desk → invariant (desk.demanded demand))
    (stepped :
      ∀ desk actor call next after,
        desk.calls[actor]? = some call →
        call.step desk.directory = some (next, after) →
        invariant desk →
        invariant (desk.stepped actor call next after))
    (opens : invariant desk)
    (schedule : List Occasion) :
    invariant (desk.run schedule) := by
  induction schedule generalizing desk with
  | nil =>
      exact opens
  | cons occasion rest inductionHypothesis =>
      apply inductionHypothesis
      cases occasion with
      | demand demand =>
          exact demanded desk demand opens
      | turn actor =>
          rcases following_turn desk actor with
            same | ⟨call, next, after, found, taken, same⟩
          · rw [same]
            exact opens
          · rw [same]
            exact stepped desk actor call next after found taken opens

/-! ## One step -/

/-- A step of a call keeps the directory tidy. -/
theorem tidy_of_step
    (tidy : directory.Tidy)
    (stepped : call.step directory = some (next, after)) :
    after.Tidy := by
  cases call with
  | register endpoint =>
      cases stepped
      exact tidy.register endpoint
  | unregister endpoint =>
      cases stepped
      exact tidy.withdraw endpoint
  | sweep serviceId =>
      cases stepped
      exact tidy.dropIfEmpty serviceId
  | lookup serviceId =>
      cases stepped
      exact tidy
  | found endpoints | done =>
      cases stepped

/-- A step changes what is shown as it changes the roll. -/
theorem shows_of_step
    {history : List Act}
    (tidy : directory.Tidy)
    (shows : directory.Shows (roll (changes history)))
    (stepped : call.step directory = some (next, after)) :
    after.Shows
      (roll
        (changes
          (history ++ [⟨actor, call, directory, next, after⟩]))) := by
  rw [changes, List.filterMap_append]
  cases call with
  | register endpoint =>
      cases stepped
      exact (roll_append _ _) ▸ shows.register endpoint
  | unregister endpoint =>
      cases stepped
      exact (roll_append _ _) ▸ shows.withdraw (nodup_roll _) endpoint
  | sweep serviceId =>
      cases stepped
      exact (List.append_nil _).symm ▸ shows.dropIfEmpty tidy serviceId
  | lookup serviceId =>
      cases stepped
      exact (List.append_nil _).symm ▸ shows
  | found endpoints | done =>
      cases stepped

/-- A bucket that is empty after a step was so before, or its call will come back for it. -/
theorem isBare_of_step
    {serviceId : String}
    (tidy : directory.Tidy)
    (stepped : call.step directory = some (next, after))
    (bare : after.isBare serviceId = true) :
    next = .sweep serviceId ∨
      directory.isBare serviceId = true ∧ call ≠ .sweep serviceId := by
  cases call with
  | register endpoint =>
      cases stepped
      rw [Directory.isBare_register, Bool.and_eq_true] at bare
      exact .inr ⟨bare.2, Call.noConfusion⟩
  | unregister endpoint =>
      simp only [Call.step, Option.some.injEq, Prod.mk.injEq] at stepped
      obtain ⟨rfl, rfl⟩ := stepped
      by_cases same : serviceId = endpoint.serviceId
      · subst same
        exact .inl (if_pos bare)
      · rw [Directory.isBare_withdraw_of_ne same] at bare
        exact .inr ⟨bare, Call.noConfusion⟩
  | sweep other =>
      cases stepped
      obtain ⟨apart, before⟩ :=
        (tidy.isBare_dropIfEmpty other serviceId).mp bare
      exact .inr ⟨before, fun same => apart (Call.sweep.inj same).symm⟩
  | lookup other =>
      cases stepped
      exact .inr ⟨bare, Call.noConfusion⟩
  | found endpoints | done =>
      cases stepped

/-- An unregistering that nobody interferes with is that as a whole. -/
theorem unregister_alone
    (tidy : directory.Tidy)
    (endpoint : Endpoint) :
    ∃ next after,
      (Call.unregister endpoint).step directory = some (next, after) ∧
      (next = .done ∧ after = directory.unregister endpoint ∨
        next.step after =
          some (.done, directory.unregister endpoint)) := by
  refine ⟨_, _, rfl, ?_⟩
  cases bare :
      (directory.withdraw endpoint).isBare endpoint.serviceId with
  | true =>
      exact .inr rfl
  | false =>
      exact .inl ⟨rfl, (tidy.unregister_eq_withdraw bare).symm⟩

/-! ## Whole schedules -/

/-- The directory shows the roll, and whoever left a bucket empty comes back for it. -/
structure Mirrors (desk : Desk) : Prop where
  tidy : desk.directory.Tidy
  shows : desk.directory.Shows (roll (changes desk.history))
  swept :
    ∀ serviceId,
      desk.directory.isBare serviceId = true →
        .sweep serviceId ∈ desk.calls
  acted :
    ∀ earlier act later,
      desk.history = earlier ++ act :: later →
        act.before.Tidy ∧
        act.before.Shows (roll (changes earlier)) ∧
        act.call.step act.before = some (act.next, act.after)
  answered :
    ∀ actor endpoints,
      desk.calls[actor]? = some (.found endpoints) →
        ∃ act ∈ desk.history,
          act.actor = actor ∧ act.next = .found endpoints

/-- A new demand leaves the answers mirrored. -/
theorem Mirrors.demanded
    (mirrors : desk.Mirrors)
    (demand : Demand) :
    (desk.demanded demand).Mirrors := by
  constructor
  case tidy => exact mirrors.tidy
  case shows => exact mirrors.shows
  case swept =>
    intro serviceId bare
    exact List.mem_append_left _ (mirrors.swept serviceId bare)
  case acted => exact mirrors.acted
  case answered =>
    intro actor endpoints found
    rw [Desk.demanded, List.getElem?_append] at found
    split at found
    · exact mirrors.answered actor endpoints found
    · rw [List.getElem?_singleton] at found
      split at found
      · cases demand <;> cases found
      · cases found

/-- A step of a call leaves the answers mirrored. -/
theorem Mirrors.stepped
    (mirrors : desk.Mirrors)
    (here : desk.calls[actor]? = some call)
    (taken : call.step desk.directory = some (next, after)) :
    (desk.stepped actor call next after).Mirrors := by
  have inside : actor < desk.calls.length :=
    (List.getElem?_eq_some_iff.mp here).1
  constructor
  case tidy => exact tidy_of_step mirrors.tidy taken
  case shows => exact shows_of_step mirrors.tidy mirrors.shows taken
  case swept =>
    intro serviceId bare
    rcases isBare_of_step mirrors.tidy taken bare with
      comesBack | ⟨before, other⟩
    · rw [← comesBack]
      exact List.mem_set inside next
    · obtain ⟨sweeper, found⟩ :=
        List.mem_iff_getElem?.mp (mirrors.swept serviceId before)
      have apart : actor ≠ sweeper := by
        rintro rfl
        rw [here] at found
        exact other (Option.some.inj found)
      apply List.mem_iff_getElem?.mpr
      exact ⟨sweeper, by rw [Desk.stepped, List.getElem?_set_ne apart, found]⟩
  case acted =>
    intro earlier act later shape
    rcases List.eq_nil_or_concat later with last | ⟨others, final, more⟩
    · subst last
      obtain ⟨before, same⟩ := List.append_inj' shape rfl
      obtain rfl := List.singleton_inj.mp same
      subst before
      exact ⟨mirrors.tidy, mirrors.shows, taken⟩
    · rw [more, List.concat_eq_append, ← List.cons_append,
        ← List.append_assoc] at shape
      obtain ⟨before, -⟩ := List.append_inj' shape rfl
      exact mirrors.acted earlier act others before
  case answered =>
    intro caller endpoints found
    by_cases same : actor = caller
    · subst same
      rw [Desk.stepped, List.getElem?_set_self inside] at found
      exact ⟨_, List.mem_append_right _ (List.mem_singleton_self _), rfl,
        Option.some.inj found⟩
    · rw [Desk.stepped, List.getElem?_set_ne same] at found
      obtain ⟨act, past, actor, answer⟩ :=
        mirrors.answered caller endpoints found
      exact ⟨act, List.mem_append_left _ past, actor, answer⟩

/-- The desk of a new directory. -/
theorem Mirrors.opening : ({} : Desk).Mirrors := by
  constructor
  case tidy => exact List.nodup_nil
  case shows => exact fun _ => rfl
  case swept =>
    intro serviceId bare
    exact absurd bare Bool.false_ne_true
  case acted =>
    intro earlier act later shape
    exact absurd shape.symm (List.append_ne_nil_of_right_ne_nil _
      (List.cons_ne_nil _ _))
  case answered =>
    intro actor endpoints found
    cases found

/-- Every run of the desk mirrors its answers. -/
theorem mirrors_run (schedule : List Occasion) :
    (run {} schedule).Mirrors :=
  run_induct (fun _ demand mirrors => mirrors.demanded demand)
    (fun _ _ _ _ _ here taken mirrors => mirrors.stepped here taken)
    .opening schedule

/-- What a look-up of a service finds on a roll. -/
def listing
    (history : List Act)
    (serviceId : String) : List Endpoint :=
  (roll (changes history)).filter fun endpoint =>
    endpoint.serviceId = serviceId

/-- The answer to a look-up of a service, after these steps. -/
structure Answers
    (history : List Act)
    (serviceId : String)
    (endpoints : List Endpoint) : Prop where
  listed : endpoints = listing history serviceId
  once : endpoints.Nodup
  own : ∀ endpoint ∈ endpoints, endpoint.serviceId = serviceId
  inOrder : endpoints.Pairwise (EnteredBefore (changes history))

/-- The desk answers as if every call took effect on one roll with its first step. -/
structure Orderly (desk : Desk) : Prop where
  /-- A look-up finds what is on the roll for the service at that time. -/
  found :
    ∀ earlier act later serviceId,
      desk.history = earlier ++ act :: later →
      act.call = .lookup serviceId →
        ∃ endpoints,
          act.next = .found endpoints ∧
          Answers earlier serviceId endpoints
  /-- What a caller has found is what was on the roll when its look-up took its step. -/
  returned :
    ∀ actor endpoints,
      desk.calls[actor]? = some (.found endpoints) →
        ∃ earlier act later serviceId,
          desk.history = earlier ++ act :: later ∧
          act.actor = actor ∧
          act.call = .lookup serviceId ∧
          Answers earlier serviceId endpoints
  /-- What a call does when it comes back for a bucket is not seen by look-ups. -/
  unseen :
    ∀ act ∈ desk.history,
      ∀ serviceId,
        act.call = .sweep serviceId →
        ∀ other, act.after.lookup other = act.before.lookup other
  /-- An endpoint that was registered is there until somebody unregisters it. -/
  kept :
    ∀ earlier act later endpoint,
      desk.history = earlier ++ act :: later →
      act.call = .register endpoint →
      (∀ other ∈ later, other.call ≠ .unregister endpoint) →
        endpoint ∈ desk.directory.lookup endpoint.serviceId
  /-- When no call is under way, no bucket is empty and endpoints are counted once. -/
  settled :
    (∀ call ∈ desk.calls, call.step desk.directory = none) →
      (∀ bucket ∈ desk.directory.buckets, bucket.2 ≠ []) ∧
      ∃ endpoints : List Endpoint,
        endpoints.Nodup ∧
        (∀ endpoint,
          endpoint ∈ endpoints ↔
            ∃ serviceId, endpoint ∈ desk.directory.lookup serviceId) ∧
        desk.directory.size = endpoints.length
  /-- Registering an endpoint that is not there and unregistering it changes nothing. -/
  restored :
    ∀ endpoint,
      endpoint ∉ desk.directory.lookup endpoint.serviceId →
        let after :=
          (desk.directory.register endpoint).unregister endpoint
        (∀ serviceId,
          after.lookup serviceId = desk.directory.lookup serviceId) ∧
        after.size = desk.directory.size
  /-- Doing either a second time changes nothing. -/
  repeated :
    ∀ endpoint,
      (desk.directory.register endpoint).register endpoint =
          desk.directory.register endpoint ∧
        (desk.directory.unregister endpoint).unregister endpoint =
          desk.directory.unregister endpoint
  /-- An unregistering that nobody interferes with is that as a whole. -/
  alone :
    ∀ endpoint,
      ∃ next after,
        (Call.unregister endpoint).step desk.directory =
          some (next, after) ∧
        (next = .done ∧ after = desk.directory.unregister endpoint ∨
          next.step after =
            some (.done, desk.directory.unregister endpoint))

/-- What a roll lists for a service is in order, without repetitions. -/
theorem answers_listing
    (history : List Act)
    (serviceId : String) :
    Answers history serviceId (listing history serviceId) := by
  constructor
  case listed => rfl
  case once => exact (nodup_roll _).filter _
  case own =>
    intro endpoint listed
    exact of_decide_eq_true (List.mem_filter.mp listed).2
  case inOrder => exact (pairwise_roll _).filter _

/-- A look-up that was made has found what was on the roll. -/
theorem Mirrors.found
    (mirrors : desk.Mirrors)
    {earlier later : List Act}
    {act : Act}
    {serviceId : String}
    (shape : desk.history = earlier ++ act :: later)
    (looked : act.call = .lookup serviceId) :
    act.next = .found (listing earlier serviceId) := by
  obtain ⟨-, shows, taken⟩ := mirrors.acted earlier act later shape
  rw [looked, Call.step, Option.some.injEq, Prod.mk.injEq] at taken
  rw [← taken.1, shows serviceId]
  rfl

/-- Only look-ups find anything. -/
theorem lookup_of_found
    {endpoints : List Endpoint}
    (taken : call.step directory = some (.found endpoints, after)) :
    ∃ serviceId, call = .lookup serviceId := by
  cases call with
  | lookup serviceId =>
      exact ⟨serviceId, rfl⟩
  | unregister endpoint =>
      simp only [Call.step, Option.some.injEq, Prod.mk.injEq] at taken
      have next := taken.1
      split at next <;> cases next
  | _ =>
      cases taken

/-- Registering an endpoint that is not there and unregistering it shows what was shown. -/
theorem Mirrors.restored
    (mirrors : desk.Mirrors)
    (absent : endpoint ∉ desk.directory.lookup endpoint.serviceId) :
    ((desk.directory.register endpoint).unregister endpoint).Shows
      (roll (changes desk.history)) := by
  have unlisted : endpoint ∉ roll (changes desk.history) :=
    fun listed => absent (mirrors.shows.mem_lookup.mpr ⟨listed, rfl⟩)
  have back :
      (Change.strike endpoint).onRoll
          ((Change.enter endpoint).onRoll (roll (changes desk.history))) =
        roll (changes desk.history) := by
    rw [Change.onRoll, Change.onRoll, if_neg unlisted,
      List.erase_append_right _ unlisted, List.erase_cons_head,
      List.append_nil]
  have shows :=
    (mirrors.shows.register endpoint).unregister
      (mirrors.tidy.register endpoint)
      (roll_append (changes desk.history) (.enter endpoint) ▸
        nodup_roll _)
      endpoint
  rwa [back] at shows

/--
Whatever calls overlap, a directory answers like a set of endpoints in the order of
their entries, on which every call takes effect with its first step.
-/
theorem answersInOrder (schedule : List Occasion) :
    (run {} schedule).Orderly := by
  have mirrors := mirrors_run schedule
  generalize run {} schedule = desk at mirrors
  constructor
  case found =>
    intro earlier act later serviceId shape looked
    exact ⟨_, mirrors.found shape looked, answers_listing _ _⟩
  case returned =>
    intro actor endpoints got
    obtain ⟨act, past, mine, answer⟩ := mirrors.answered actor endpoints got
    obtain ⟨earlier, later, shape⟩ := List.append_of_mem past
    obtain ⟨-, -, taken⟩ := mirrors.acted earlier act later shape
    rw [answer] at taken
    obtain ⟨serviceId, looked⟩ := lookup_of_found taken
    have same := mirrors.found shape looked
    rw [answer, Call.found.injEq] at same
    exact ⟨earlier, act, later, serviceId, shape, mine, looked,
      same ▸ answers_listing _ _⟩
  case unseen =>
    intro act past serviceId swept other
    obtain ⟨earlier, later, shape⟩ := List.append_of_mem past
    obtain ⟨tidy, shows, taken⟩ := mirrors.acted earlier act later shape
    rw [swept, Call.step, Option.some.injEq, Prod.mk.injEq] at taken
    rw [← taken.2, shows.dropIfEmpty tidy serviceId other, shows other]
  case kept =>
    intro earlier act later endpoint shape registered kept
    refine mirrors.shows.mem_lookup.mpr ⟨?_, rfl⟩
    rw [shape, changes, List.filterMap_append, List.filterMap_cons,
      registered]
    refine mem_roll_of_entered _ fun struck => ?_
    obtain ⟨other, after, striking⟩ := List.mem_filterMap.mp struck
    refine kept other after ?_
    cases called : other.call with
    | unregister stranger =>
        rw [called] at striking
        cases striking
        rfl
    | _ =>
        rw [called] at striking
        cases striking
  case settled =>
    intro quiet
    constructor
    · intro bucket member
      refine mirrors.tidy.ne_nil_of_not_isBare ?_ member
      intro serviceId
      refine Bool.eq_false_iff.mpr fun bare => ?_
      exact absurd (quiet _ (mirrors.swept serviceId bare)) (by simp [Call.step])
    · refine ⟨roll (changes desk.history), nodup_roll _, ?_, ?_⟩
      · intro endpoint
        simp [mirrors.shows.mem_lookup]
      · exact (mirrors.shows.held_perm mirrors.tidy
          (nodup_roll _)).length_eq
  case restored =>
    intro endpoint absent
    have shows := mirrors.restored absent
    have tidy :=
      ((mirrors.tidy.register endpoint).withdraw endpoint).dropIfEmpty
        endpoint.serviceId
    constructor
    · intro serviceId
      rw [shows serviceId, mirrors.shows serviceId]
    · exact
        ((shows.held_perm tidy (nodup_roll _)).trans
          (mirrors.shows.held_perm mirrors.tidy
            (nodup_roll _)).symm).length_eq
  case repeated =>
    intro endpoint
    exact ⟨Directory.register_register _ _,
      Directory.unregister_unregister _ _⟩
  case alone => exact unregister_alone mirrors.tidy

/-- Somebody registers the endpoint while its bucket waits to be dropped. -/
example :
    let endpoint : Endpoint := ⟨.plain, .v4 .unspecified, 80, "ledger"⟩
    (run {}
      [.demand (.register endpoint), .demand (.unregister endpoint),
        .demand (.register endpoint), .turn 0, .turn 1, .turn 2,
        .turn 1]).directory.lookup "ledger" = [endpoint] := by
  decide +kernel

end Desk

end PluggableHost.Registry
