import Mathlib.Data.List.Count
import PluggableHost.Proofs.Registry.Holdings
import PluggableHost.Proofs.Registry.Office

namespace PluggableHost.Registry

open PluggableHost.Config PluggableHost.Net List

/-!
# The list of a registrar and its directory

A registrar and the directory that it alone writes keep the same information in two
ways: the list has a copy of an endpoint for each time that it was published, the
directory has it once.  The list never misses what the directory holds.  But where
an endpoint is on the list twice, withdrawing one copy takes it out of the directory
and leaves the other copy on the list, until it is published again or withdrawn as
often as it is listed.
-/

namespace Order

variable {ρ : Type}

/-- What carrying out an order as a whole leaves. -/
def carriedOut
    (client : Option (RegistryClient ρ))
    (registrar : Registrar ρ) : Order → Registrar ρ
  | register settings probe =>
      (registrar.register client probe settings).registrar
  | unregister endpoints =>
      (registrar.unregister client endpoints).registrar
  | unregisterAll => (registrar.unregisterAll client).registrar

/-- The endpoints that an order is to publish. -/
def publishes : Order → List Endpoint
  | register settings probe =>
      Registrar.endpointsFor settings
        (Registrar.reachableAddress probe settings.ip).1
  | unregister _ | unregisterAll => []

/-- The endpoints that an order is to withdraw, given those that are listed. -/
def withdraws
    (tracked : List Endpoint) : Order → List Endpoint
  | register _ _ => []
  | unregister endpoints => endpoints
  | unregisterAll => tracked

end Order

/-- An endpoint is found by some look-up. -/
def Directory.Holds
    (directory : Directory)
    (endpoint : Endpoint) : Prop :=
  ∃ serviceId, endpoint ∈ directory.lookup serviceId

/-- A registrar with a directory of its own, both empty, after some orders. -/
def keeping
    (switches : SwitchBoard)
    (orders : List Order) : Registrar Directory :=
  orders.foldl (Order.carriedOut (some Directory.registry))
    { registry := {}, switches }

/-- Somebody has asked to withdraw an endpoint, and it was not published since. -/
def WithdrawnSince
    (orders : List Order)
    (endpoint : Endpoint) : Prop :=
  ∃ earlier endpoints later,
    orders = earlier ++ .unregister endpoints :: later ∧
      endpoint ∈ endpoints ∧
      ∀ order ∈ later, endpoint ∉ order.publishes

/-- How the list and the directory tell of an endpoint. -/
structure Accord
    (switches : SwitchBoard)
    (orders : List Order)
    (endpoint : Endpoint) : Prop where
  /-- What the directory holds is never forgotten. -/
  remembered :
    (keeping switches orders).registry.Holds endpoint →
      endpoint ∈ (keeping switches orders).tracked
  /-- The directory lacks what was withdrawn since it was published, and nothing else. -/
  holds_iff :
    (keeping switches orders).registry.Holds endpoint ↔
      endpoint ∈ (keeping switches orders).tracked ∧
        ¬ WithdrawnSince orders endpoint
  /-- As long as all copies are withdrawn together, the two agree. -/
  agrees :
    (∀ earlier endpoints later,
      orders = earlier ++ .unregister endpoints :: later →
      endpoint ∈ endpoints →
      (keeping switches earlier).tracked.count endpoint ≤
        endpoints.count endpoint) →
    (endpoint ∈ (keeping switches orders).tracked ↔
      (keeping switches orders).registry.Holds endpoint)
  /-- As soon as some copies are withdrawn and not all, the two disagree. -/
  disagrees :
    ∀ endpoints,
      endpoint ∈ endpoints →
      endpoints.count endpoint <
        (keeping switches orders).tracked.count endpoint →
      let after := keeping switches (orders ++ [.unregister endpoints])
      endpoint ∈ after.tracked ∧ ¬ after.registry.Holds endpoint

namespace Directory

variable
  {directory : Directory}
  {shown : List Endpoint}

/-- A directory holds an endpoint exactly when it shows it. -/
theorem Shows.holds
    (shows : directory.Shows shown)
    (endpoint : Endpoint) :
    directory.Holds endpoint ↔ endpoint ∈ shown := by
  simp [Holds, shows.mem_lookup]

end Directory

/-! ## What an order does to the copies of an endpoint -/

/-- The directory is a roll of endpoints, all of which are on the list. -/
structure Kept (registrar : Registrar Directory) : Prop where
  tidy : registrar.registry.Tidy
  shows : ∃ changes, registrar.registry.Shows (roll changes)
  remembered :
    ∀ endpoint,
      registrar.registry.Holds endpoint → endpoint ∈ registrar.tracked

/-- Endpoints were published, or withdrawn. -/
structure Moved
    (before : Registrar Directory)
    (published withdrawn : List Endpoint)
    (after : Registrar Directory) : Prop where
  kept : Kept after
  copies :
    ∀ endpoint,
      after.tracked.count endpoint =
        before.tracked.count endpoint + published.count endpoint -
          withdrawn.count endpoint
  holds :
    ∀ endpoint,
      after.registry.Holds endpoint ↔
        before.registry.Holds endpoint ∧ endpoint ∉ withdrawn ∨
          endpoint ∈ published

variable {registrar before after : Registrar Directory}

/-- A new registrar has nothing on its list, and nothing in its directory. -/
theorem kept_new (switches : SwitchBoard) :
    Kept { registry := {}, switches } := by
  constructor
  · exact List.nodup_nil
  · exact ⟨[], fun _ => rfl⟩
  · rintro endpoint ⟨serviceId, found⟩
    exact absurd found List.not_mem_nil

/-- A directory accepts whatever it is offered. -/
theorem Kept.publish
    (kept : Kept registrar)
    (endpoint : Endpoint) :
    Moved registrar [endpoint] []
      (registrar.publish Directory.registry endpoint).registrar := by
  obtain ⟨changes, shows⟩ := kept.shows
  have later :
      (registrar.registry.register endpoint).Shows
        (roll (changes ++ [.enter endpoint])) :=
    roll_append changes _ ▸ shows.register endpoint
  have holds :
      ∀ other,
        (registrar.registry.register endpoint).Holds other ↔
          registrar.registry.Holds other ∨ other = endpoint := by
    intro other
    rw [later.holds, shows.holds, roll_append, Change.onRoll]
    by_cases listed : endpoint ∈ roll changes
    · simp only [listed, ↓reduceIte]
      exact ⟨.inl, fun either => either.elim id fun same => same ▸ listed⟩
    · simp [listed]
  have left :
      (registrar.publish Directory.registry endpoint).registrar =
        { registrar with
          tracked := registrar.tracked ++ [endpoint]
          registry := registrar.registry.register endpoint } :=
    rfl
  rw [left]
  constructor
  case kept =>
    refine ⟨kept.tidy.register endpoint, ⟨_, later⟩, fun other held => ?_⟩
    rcases (holds other).mp held with old | new
    · exact List.mem_append_left _ (kept.remembered other old)
    · exact List.mem_append_right _ (List.mem_singleton.mpr new)
  case copies =>
    intro other
    exact List.count_append
  case holds =>
    intro other
    simpa using holds other

/-- Who is on the list is taken off it, and out of the directory. -/
theorem Kept.unregisterOne
    (kept : Kept registrar)
    (endpoint : Endpoint) :
    Moved registrar [] [endpoint]
      (registrar.unregisterOne (some Directory.registry)
        endpoint).registrar := by
  obtain ⟨changes, shows⟩ := kept.shows
  by_cases listed : endpoint ∈ registrar.tracked
  · have left :
        (registrar.unregisterOne (some Directory.registry)
            endpoint).registrar =
          { registrar with
            tracked := registrar.tracked.erase endpoint
            registry := registrar.registry.unregister endpoint } := by
      simp [Registrar.unregisterOne, Registrar.untrack,
        Registrar.withdraw, Directory.registry, listed]
    have later :
        (registrar.registry.unregister endpoint).Shows
          (roll (changes ++ [.strike endpoint])) :=
      roll_append changes _ ▸
        shows.unregister kept.tidy (nodup_roll changes) endpoint
    have holds :
        ∀ other,
          (registrar.registry.unregister endpoint).Holds other ↔
            registrar.registry.Holds other ∧ other ≠ endpoint := by
      intro other
      rw [later.holds, shows.holds, roll_append, Change.onRoll,
        (nodup_roll changes).mem_erase_iff, and_comm]
    rw [left]
    constructor
    case kept =>
      refine ⟨(kept.tidy.withdraw endpoint).dropIfEmpty _, ⟨_, later⟩,
        fun other held => ?_⟩
      obtain ⟨old, apart⟩ := (holds other).mp held
      exact (List.mem_erase_of_ne apart).mpr (kept.remembered other old)
    case copies =>
      intro other
      simp [List.count_erase, List.count_singleton]
    case holds =>
      intro other
      simpa using holds other
  · have left :
        (registrar.unregisterOne (some Directory.registry)
            endpoint).registrar =
          registrar := by
      simp [Registrar.unregisterOne, Registrar.untrack, listed]
    rw [left]
    constructor
    case kept => exact kept
    case copies =>
      intro other
      by_cases same : other = endpoint
      · subst same
        simp [List.count_eq_zero_of_not_mem listed]
      · simp [Ne.symm same]
    case holds =>
      intro other
      have apart : registrar.registry.Holds other → other ≠ endpoint :=
        fun held same => listed (same ▸ kept.remembered other held)
      simpa using apart

/-- A directory refuses nothing, so everything is published. -/
theorem Kept.publishAll
    (kept : Kept registrar)
    (endpoints : List Endpoint) :
    let step := registrar.publishAll Directory.registry endpoints
    step.value = .ok () ∧
      Moved registrar endpoints [] step.registrar := by
  induction endpoints generalizing registrar with
  | nil =>
      exact ⟨rfl, kept, by simp [Registrar.publishAll],
        by simp [Registrar.publishAll]⟩
  | cons endpoint rest inductionHypothesis =>
      have first := kept.publish endpoint
      obtain ⟨succeeded, others⟩ := inductionHypothesis first.kept
      refine ⟨succeeded, others.kept, ?_, ?_⟩
      · intro other
        have early := first.copies other
        have late := others.copies other
        rw [List.count_cons]
        rw [List.count_singleton] at early
        simp only [List.count_nil, Nat.sub_zero] at early late ⊢
        exact late.trans (by omega)
      · intro other
        have early := first.holds other
        have late := others.holds other
        simp only [List.not_mem_nil, not_false_eq_true, and_true,
          List.mem_cons, or_false] at early late ⊢
        exact late.trans (by rw [early, or_assoc])

/-- Unregistering endpoints withdraws each of them and offers none. -/
theorem Kept.unregister
    (kept : Kept registrar)
    (endpoints : List Endpoint) :
    Moved registrar [] endpoints
      (registrar.unregister (some Directory.registry)
        endpoints).registrar := by
  induction endpoints generalizing registrar with
  | nil =>
      exact ⟨kept, by simp [Registrar.unregister],
        by simp [Registrar.unregister]⟩
  | cons endpoint rest inductionHypothesis =>
      have first := kept.unregisterOne endpoint
      have others := inductionHypothesis first.kept
      refine ⟨others.kept, ?_, ?_⟩
      · intro other
        have early := first.copies other
        have late := others.copies other
        rw [List.count_cons]
        rw [List.count_singleton] at early
        simp only [List.count_nil, Nat.add_zero] at early late ⊢
        exact late.trans (by omega)
      · intro other
        have early := first.holds other
        have late := others.holds other
        simp only [List.not_mem_nil, or_false, List.mem_cons, not_or]
          at early late ⊢
        exact late.trans (by rw [early, and_assoc])

/-- Every order moves the endpoints that it is about. -/
theorem Kept.carriedOut
    (kept : Kept registrar)
    (order : Order) :
    Moved registrar order.publishes (order.withdraws registrar.tracked)
      (order.carriedOut (some Directory.registry) registrar) := by
  cases order with
  | register settings probe =>
      obtain ⟨succeeded, moved⟩ :=
        kept.publishAll (Order.register settings probe).publishes
      simp only [Order.publishes] at succeeded moved
      simp only [Order.carriedOut, Registrar.register, succeeded]
      exact ⟨⟨moved.kept.tidy, moved.kept.shows, moved.kept.remembered⟩,
        moved.copies, moved.holds⟩
  | unregister endpoints =>
      exact kept.unregister endpoints
  | unregisterAll =>
      exact kept.unregister registrar.tracked

/-! ## What a run of orders leaves -/

variable
  {switches : SwitchBoard}
  {orders : List Order}
  {endpoint : Endpoint}

/-- One more order is carried out after the others. -/
theorem keeping_append
    (switches : SwitchBoard)
    (orders : List Order)
    (order : Order) :
    keeping switches (orders ++ [order]) =
      order.carriedOut (some Directory.registry)
        (keeping switches orders) := by
  rw [keeping, List.foldl_append]
  rfl

/-- The directory stays a roll of listed endpoints, whatever is ordered. -/
theorem kept_keeping
    (switches : SwitchBoard)
    (orders : List Order) :
    Kept (keeping switches orders) := by
  induction orders using List.reverseRecOn with
  | nil =>
      exact kept_new switches
  | append_singleton orders order inductionHypothesis =>
      rw [keeping_append]
      exact (inductionHypothesis.carriedOut order).kept

/-- What one more order moves. -/
theorem moved_keeping
    (switches : SwitchBoard)
    (orders : List Order)
    (order : Order) :
    Moved (keeping switches orders) order.publishes
      (order.withdraws (keeping switches orders).tracked)
      (keeping switches (orders ++ [order])) := by
  rw [keeping_append]
  exact (kept_keeping switches orders).carriedOut order

/-- An endpoint is on the list if it was and is not withdrawn, or is published. -/
theorem Moved.mem_tracked
    {published withdrawn : List Endpoint}
    (moved : Moved before published withdrawn after)
    (endpoint : Endpoint) :
    endpoint ∈ after.tracked ↔
      withdrawn.count endpoint <
        before.tracked.count endpoint + published.count endpoint := by
  rw [← List.count_pos_iff, moved.copies]
  omega

/-- An endpoint has been withdrawn since by the last order, or before it and not published by it. -/
theorem withdrawnSince_append
    (orders : List Order)
    (order : Order)
    (endpoint : Endpoint) :
    WithdrawnSince (orders ++ [order]) endpoint ↔
      (∃ endpoints, order = .unregister endpoints ∧ endpoint ∈ endpoints) ∨
        WithdrawnSince orders endpoint ∧ endpoint ∉ order.publishes := by
  constructor
  · rintro ⟨earlier, endpoints, later, shape, named, unpublished⟩
    rcases List.eq_nil_or_concat later with rfl | ⟨later, last, rfl⟩
    · obtain ⟨-, same⟩ := List.append_inj' shape rfl
      exact .inl ⟨endpoints, List.head_eq_of_cons_eq same, named⟩
    · rw [List.concat_eq_append, ← List.cons_append, ← List.append_assoc]
        at shape
      obtain ⟨rfl, same⟩ := List.append_inj' shape rfl
      obtain rfl := List.head_eq_of_cons_eq same
      rw [List.concat_eq_append] at unpublished
      exact .inr ⟨⟨earlier, endpoints, later, rfl, named,
          fun order past => unpublished order (List.mem_append_left _ past)⟩,
        unpublished order (by simp)⟩
  · rintro (⟨endpoints, rfl, named⟩ |
      ⟨⟨earlier, endpoints, later, rfl, named, unpublished⟩, spared⟩)
    · exact ⟨orders, endpoints, [], rfl, named, by simp⟩
    · refine ⟨earlier, endpoints, later ++ [order], by simp, named, ?_⟩
      intro other past
      rcases List.mem_append.mp past with early | last
      · exact unpublished other early
      · exact List.mem_singleton.mp last ▸ spared

/-- The directory holds what is listed, less what was withdrawn since. -/
theorem holds_keeping
    (switches : SwitchBoard)
    (orders : List Order)
    (endpoint : Endpoint) :
    (keeping switches orders).registry.Holds endpoint ↔
      endpoint ∈ (keeping switches orders).tracked ∧
        ¬ WithdrawnSince orders endpoint := by
  induction orders using List.reverseRecOn with
  | nil =>
      constructor
      · rintro ⟨serviceId, found⟩
        exact absurd found List.not_mem_nil
      · rintro ⟨listed, -⟩
        exact absurd listed List.not_mem_nil
  | append_singleton orders order inductionHypothesis =>
      have moved := moved_keeping switches orders order
      have listed := moved.mem_tracked endpoint
      rw [moved.holds, inductionHypothesis, withdrawnSince_append, listed]
      cases order with
      | register settings probe =>
          by_cases published :
              endpoint ∈ (Order.register settings probe).publishes
          · have copies := List.count_pos_iff.mpr published
            simp [published, Order.withdraws, Nat.add_pos_right _ copies]
          · have copies := List.count_eq_zero_of_not_mem published
            simp [published, Order.withdraws, copies]
      | unregister endpoints =>
          by_cases named : endpoint ∈ endpoints
          · simp [named, Order.withdraws, Order.publishes]
          · have copies := List.count_eq_zero_of_not_mem named
            simp [named, Order.withdraws, Order.publishes, copies]
      | unregisterAll =>
          simp only [Order.withdraws, Order.publishes, List.count_nil,
            Nat.add_zero, Nat.lt_irrefl, false_and, List.not_mem_nil,
            or_false, iff_false]
          rintro ⟨⟨listed, -⟩, spared⟩
          exact spared listed

/-- What is not listed stays so until it is published. -/
theorem not_mem_tracked_append
    (switches : SwitchBoard)
    {earlier later : List Order}
    (absent : endpoint ∉ (keeping switches earlier).tracked)
    (unpublished : ∀ order ∈ later, endpoint ∉ order.publishes) :
    endpoint ∉ (keeping switches (earlier ++ later)).tracked := by
  induction later using List.reverseRecOn with
  | nil =>
      rwa [List.append_nil]
  | append_singleton later order inductionHypothesis =>
      have before : endpoint ∉ (keeping switches (earlier ++ later)).tracked :=
        inductionHypothesis fun other past =>
          unpublished other (List.mem_append_left _ past)
      have spared : endpoint ∉ order.publishes :=
        unpublished order (by simp)
      rw [← List.append_assoc,
        (moved_keeping switches (earlier ++ later) order).mem_tracked,
        List.count_eq_zero_of_not_mem before,
        List.count_eq_zero_of_not_mem spared]
      exact Nat.not_lt_zero _

/--
A registrar remembers whatever its directory holds, and the two agree on every
endpoint as long as all its copies are withdrawn together, and no longer.
-/
theorem agreesUnlessWithdrawnInPart
    (switches : SwitchBoard)
    (orders : List Order)
    (endpoint : Endpoint) :
    Accord switches orders endpoint := by
  have holds := holds_keeping switches orders endpoint
  constructor
  case remembered => exact fun held => (holds.mp held).1
  case holds_iff => exact holds
  case agrees =>
    intro whole
    refine ⟨fun listed => holds.mpr ⟨listed, ?_⟩, fun held => (holds.mp held).1⟩
    rintro ⟨earlier, endpoints, later, rfl, named, unpublished⟩
    have gone :
        endpoint ∉
          (keeping switches (earlier ++ [.unregister endpoints])).tracked := by
      rw [(moved_keeping switches earlier _).mem_tracked]
      exact Nat.not_lt.mpr (whole earlier endpoints later rfl named)
    have still := not_mem_tracked_append switches gone unpublished
    rw [List.append_assoc, List.singleton_append] at still
    exact still listed
  case disagrees =>
    intro endpoints named part
    have moved := moved_keeping switches orders (.unregister endpoints)
    constructor
    · exact (moved.mem_tracked endpoint).mpr part
    · rw [moved.holds]
      rintro (⟨-, spared⟩ | published)
      · exact spared named
      · exact absurd published List.not_mem_nil

/-- Publishing twice and withdrawing one copy leaves one on the list that nobody finds. -/
theorem disagrees_of_publishedTwice :
    let settings : Settings := { ip := "127.0.0.1", serviceId := "ledger" }
    let endpoint : Endpoint :=
      ⟨.plain, .v4 .loopback, settings.httpPort, settings.serviceId⟩
    let after :=
      keeping {}
        [.register settings fun _ => none,
          .register settings fun _ => none,
          .unregister [endpoint]]
    after.tracked = [endpoint] ∧
      ∀ serviceId, after.registry.lookup serviceId = [] := by
  intro settings endpoint after
  have left : after.tracked = [endpoint] ∧ after.registry = {} := by
    decide +kernel
  refine ⟨left.1, fun serviceId => ?_⟩
  rw [left.2]
  rfl

end PluggableHost.Registry
