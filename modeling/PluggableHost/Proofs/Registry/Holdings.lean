import Mathlib.Data.List.Nodup
import PluggableHost.Proofs.Registry.Roll
import PluggableHost.Registry.Directory

namespace PluggableHost.Registry

open List

/-!
# What a directory holds

A directory is known by what it shows: the endpoints that a look-up finds for each
service.  A directory shows a roll if it finds for every service the endpoints of the
service on the roll, in their order.  Registering and the first half of unregistering
change what is shown as they change a roll; the second half changes nothing that is
shown, as long as every service has one bucket at most.
-/

namespace Directory

/-- All endpoints that are held, bucket by bucket. -/
def held (directory : Directory) : List Endpoint :=
  directory.buckets.flatMap Prod.snd

/-- Every service has one bucket at most. -/
def Tidy (directory : Directory) : Prop :=
  (directory.buckets.map Prod.fst).Nodup

/-- A service has a bucket with nothing in it. -/
def isBare
    (directory : Directory)
    (serviceId : String) : Bool :=
  directory.buckets.lookup serviceId == some []

/-- The endpoints of each service are those on the roll, in their order. -/
def Shows
    (directory : Directory)
    (roll : List Endpoint) : Prop :=
  ∀ serviceId,
    directory.lookup serviceId =
      roll.filter fun endpoint => endpoint.serviceId = serviceId

variable
  {directory : Directory}
  {endpoint : Endpoint}
  {serviceId : String}

/-- Where services have one bucket at most, a look-up finds that bucket. -/
theorem Tidy.lookup_eq_some
    (tidy : directory.Tidy)
    {endpoints : List Endpoint} :
    directory.buckets.lookup serviceId = some endpoints ↔
      (serviceId, endpoints) ∈ directory.buckets := by
  constructor
  · intro found
    obtain ⟨earlier, later, shape, -⟩ :=
      List.lookup_eq_some_iff.mp found
    rw [shape]
    exact List.mem_append_right earlier List.mem_cons_self
  · intro member
    obtain ⟨earlier, later, shape⟩ := List.append_of_mem member
    refine List.lookup_eq_some_iff.mpr ⟨earlier, later, shape, ?_⟩
    intro bucket before
    rw [Tidy, shape, List.map_append, List.nodup_append] at tidy
    exact bne_iff_ne.mpr fun same =>
      tidy.2.2 bucket.1 (List.mem_map_of_mem before) serviceId
        List.mem_cons_self same.symm

/-! ## Registering -/

/-- The first bucket answers for its own name, the rest for every other. -/
theorem lookup_cons_ite
    (name key : String)
    (endpoints : List Endpoint)
    (rest : List (String × List Endpoint)) :
    ((name, endpoints) :: rest).lookup key =
      if key = name then some endpoints else rest.lookup key := by
  by_cases same : key = name
  · simp [same]
  · have apart : (key == name) = false := beq_false_of_ne same
    simp [List.lookup_cons, apart, same]

/-- Updating a bucket changes what its name finds and nothing else. -/
theorem lookup_updateBucket
    (name key : String)
    (change : List Endpoint → List Endpoint)
    (buckets : List (String × List Endpoint)) :
    (updateBucket name change buckets).lookup key =
      if key = name then some (change ((buckets.lookup name).getD []))
      else buckets.lookup key := by
  induction buckets with
  | nil =>
      rw [updateBucket, lookup_cons_ite]
      rfl
  | cons bucket rest inductionHypothesis =>
      obtain ⟨other, endpoints⟩ := bucket
      by_cases here : other = name
      · subst here
        by_cases same : key = other <;>
          simp [updateBucket, lookup_cons_ite, same]
      · have apart : ¬ name = other := fun same => here same.symm
        rw [updateBucket, if_neg here, lookup_cons_ite, lookup_cons_ite,
          lookup_cons_ite, inductionHypothesis, if_neg apart]
        by_cases same : key = other
        · subst same
          simp [here]
        · simp [same]

/-- Updating a bucket adds its name at the end unless there is one already. -/
theorem keys_updateBucket
    (name : String)
    (change : List Endpoint → List Endpoint)
    (buckets : List (String × List Endpoint)) :
    (updateBucket name change buckets).map Prod.fst =
      if name ∈ buckets.map Prod.fst then buckets.map Prod.fst
      else buckets.map Prod.fst ++ [name] := by
  induction buckets with
  | nil =>
      simp [updateBucket]
  | cons bucket rest inductionHypothesis =>
      obtain ⟨other, endpoints⟩ := bucket
      by_cases here : other = name
      · simp [updateBucket, here]
      · have apart : ¬ name = other := fun same => here same.symm
        by_cases known : name ∈ rest.map Prod.fst <;>
          simp only [known, ↓reduceIte] at inductionHypothesis <;>
          simp [updateBucket, here, apart, known, inductionHypothesis]

/-- Registering enters the endpoint on the roll of its service and of no other. -/
theorem lookup_register
    (directory : Directory)
    (endpoint : Endpoint)
    (serviceId : String) :
    (directory.register endpoint).lookup serviceId =
      if serviceId = endpoint.serviceId then
        (Change.enter endpoint).onRoll (directory.lookup serviceId)
      else directory.lookup serviceId := by
  simp only [lookup, register, lookup_updateBucket]
  by_cases same : serviceId = endpoint.serviceId
  · subst same
    simp [Change.onRoll]
  · simp [same]

/-- Registering leaves its service no longer bare. -/
theorem isBare_register
    (directory : Directory)
    (endpoint : Endpoint)
    (serviceId : String) :
    (directory.register endpoint).isBare serviceId =
      (serviceId ≠ endpoint.serviceId && directory.isBare serviceId) := by
  simp only [isBare, register, lookup_updateBucket]
  by_cases same : serviceId = endpoint.serviceId
  · simp only [same, ↓reduceIte, ne_eq, not_true_eq_false, decide_false,
      Bool.false_and, beq_eq_false_iff_ne, Option.some.injEq]
    split
    case isTrue known =>
      intro empty
      simp [empty] at known
    case isFalse new =>
      exact List.append_ne_nil_of_right_ne_nil _ (List.cons_ne_nil _ _)
  · simp [same]

/-- Registering keeps the directory tidy. -/
theorem Tidy.register
    (tidy : directory.Tidy)
    (endpoint : Endpoint) :
    (directory.register endpoint).Tidy := by
  unfold Tidy Directory.register
  rw [keys_updateBucket]
  split
  case isTrue known => exact tidy
  case isFalse new =>
    refine List.nodup_append.mpr
      ⟨tidy, List.nodup_singleton _, ?_⟩
    rintro name listed _ here rfl
    exact new (List.mem_singleton.mp here ▸ listed)

/-! ## The two halves of unregistering -/

/-- Withdrawing takes the endpoint out of the bucket of its service. -/
theorem buckets_withdraw
    (directory : Directory)
    (endpoint : Endpoint) :
    (directory.withdraw endpoint).buckets =
      directory.buckets.map fun bucket =>
        (bucket.1,
          if bucket.1 = endpoint.serviceId then
            bucket.2.filter fun other => other != endpoint
          else bucket.2) := by
  unfold withdraw
  apply List.map_congr_left
  intro bucket _
  dsimp only
  split <;> rfl

/-- Withdrawing changes what its service finds and nothing else. -/
theorem lookup_withdraw
    (directory : Directory)
    (endpoint : Endpoint)
    (serviceId : String) :
    (directory.withdraw endpoint).buckets.lookup serviceId =
      (directory.buckets.lookup serviceId).map fun endpoints =>
        if serviceId = endpoint.serviceId then
          endpoints.filter fun other => other != endpoint
        else endpoints := by
  rw [buckets_withdraw]
  induction directory.buckets with
  | nil =>
      rfl
  | cons bucket rest inductionHypothesis =>
      obtain ⟨name, endpoints⟩ := bucket
      by_cases same : serviceId = name
      · subst same
        simp
      · have apart : (serviceId == name) = false := beq_false_of_ne same
        simpa [List.lookup_cons, apart] using inductionHypothesis

/-- Withdrawing keeps the directory tidy. -/
theorem Tidy.withdraw
    (tidy : directory.Tidy)
    (endpoint : Endpoint) :
    (directory.withdraw endpoint).Tidy := by
  unfold Tidy
  rw [buckets_withdraw, List.map_map]
  exact tidy

/-- Dropping an empty bucket keeps the directory tidy. -/
theorem Tidy.dropIfEmpty
    (tidy : directory.Tidy)
    (serviceId : String) :
    (directory.dropIfEmpty serviceId).Tidy :=
  tidy.sublist (List.filter_sublist.map Prod.fst)

/-- Dropping a bucket hides it if it is empty, and nothing else. -/
theorem Tidy.lookup_dropIfEmpty
    (tidy : directory.Tidy)
    (serviceId other : String)
    (endpoints : List Endpoint) :
    (directory.dropIfEmpty serviceId).buckets.lookup other =
        some endpoints ↔
      directory.buckets.lookup other = some endpoints ∧
        ¬ (other = serviceId ∧ endpoints = []) := by
  rw [(tidy.dropIfEmpty serviceId).lookup_eq_some, tidy.lookup_eq_some,
    Directory.dropIfEmpty, List.mem_filter]
  simp only [Bool.not_eq_eq_eq_not, Bool.not_true, Bool.and_eq_false_iff,
    decide_eq_false_iff_not, List.isEmpty_eq_false_iff, ne_eq,
    not_and_or]

/-- A bucket is bare after the second half of unregistering only if it was, elsewhere. -/
theorem Tidy.isBare_dropIfEmpty
    (tidy : directory.Tidy)
    (serviceId other : String) :
    (directory.dropIfEmpty serviceId).isBare other = true ↔
      other ≠ serviceId ∧ directory.isBare other = true := by
  rw [isBare, beq_iff_eq, tidy.lookup_dropIfEmpty, isBare, beq_iff_eq]
  simp [and_comm]

/-- The first half of unregistering leaves the buckets of other services alone. -/
theorem isBare_withdraw_of_ne
    (apart : serviceId ≠ endpoint.serviceId) :
    (directory.withdraw endpoint).isBare serviceId =
      directory.isBare serviceId := by
  simp only [isBare, lookup_withdraw, if_neg apart, Option.map_id']

/-- Where no bucket is bare, no bucket is empty. -/
theorem Tidy.ne_nil_of_not_isBare
    (tidy : directory.Tidy)
    (filled : ∀ serviceId, directory.isBare serviceId = false)
    {bucket : String × List Endpoint}
    (member : bucket ∈ directory.buckets) :
    bucket.2 ≠ [] := by
  intro empty
  have found : directory.buckets.lookup bucket.1 = some bucket.2 :=
    tidy.lookup_eq_some.mpr member
  have bare := filled bucket.1
  rw [isBare, found, empty] at bare
  exact absurd bare (by decide)

/-- Unregistering is its first half, if that leaves something in the bucket. -/
theorem Tidy.unregister_eq_withdraw
    (tidy : directory.Tidy)
    (filled :
      (directory.withdraw endpoint).isBare endpoint.serviceId = false) :
    directory.unregister endpoint = directory.withdraw endpoint := by
  have kept :
      ∀ bucket ∈ (directory.withdraw endpoint).buckets,
        (!(bucket.1 = endpoint.serviceId && bucket.2.isEmpty)) = true := by
    intro bucket member
    have found :=
      (tidy.withdraw endpoint).lookup_eq_some.mpr member
    by_cases same : bucket.1 = endpoint.serviceId
    · rw [same] at found
      rw [isBare, found] at filled
      simpa [same] using filled
    · simp [same]
  rw [unregister, Directory.dropIfEmpty, List.filter_eq_self.mpr kept]

/-! ## What is shown -/

variable {shown : List Endpoint}

/-- A directory finds what is on the roll that it shows. -/
theorem Shows.mem_lookup
    (shows : directory.Shows shown) :
    endpoint ∈ directory.lookup serviceId ↔
      endpoint ∈ shown ∧ endpoint.serviceId = serviceId := by
  rw [shows serviceId, List.mem_filter, decide_eq_true_iff]

/-- Registering shows the endpoint entered. -/
theorem Shows.register
    (shows : directory.Shows shown)
    (endpoint : Endpoint) :
    (directory.register endpoint).Shows
      ((Change.enter endpoint).onRoll shown) := by
  intro serviceId
  rw [lookup_register]
  by_cases same : serviceId = endpoint.serviceId
  · subst same
    by_cases listed : endpoint ∈ shown <;>
      simp [Change.onRoll, listed, shows endpoint.serviceId]
  · have apart : ¬ endpoint.serviceId = serviceId :=
      fun equal => same equal.symm
    rw [if_neg same, shows serviceId, Change.onRoll]
    split <;> simp [apart]

/-- Withdrawing shows the endpoint struck off. -/
theorem Shows.withdraw
    (shows : directory.Shows shown)
    (nodup : shown.Nodup)
    (endpoint : Endpoint) :
    (directory.withdraw endpoint).Shows
      ((Change.strike endpoint).onRoll shown) := by
  intro serviceId
  have before := shows serviceId
  unfold lookup at before ⊢
  rw [lookup_withdraw, Change.onRoll, nodup.erase_eq_filter,
    List.filter_filter]
  by_cases same : serviceId = endpoint.serviceId
  · have filtered :
        ((directory.buckets.lookup serviceId).map fun endpoints =>
            endpoints.filter fun other => other != endpoint).getD [] =
          ((directory.buckets.lookup serviceId).getD []).filter
            fun other => other != endpoint := by
      cases directory.buckets.lookup serviceId <;> rfl
    simp only [if_pos same]
    rw [filtered, before, List.filter_filter]
    apply List.filter_congr
    intro other _
    exact Bool.and_comm _ _
  · simp only [if_neg same, Option.map_id', before]
    apply List.filter_congr
    intro other _
    by_cases own : other.serviceId = serviceId
    · have apart : other ≠ endpoint := by
        rintro rfl
        exact same own.symm
      simp [own, apart]
    · simp [own]

/-- Dropping an empty bucket shows nothing else. -/
theorem Shows.dropIfEmpty
    (shows : directory.Shows shown)
    (tidy : directory.Tidy)
    (serviceId : String) :
    (directory.dropIfEmpty serviceId).Shows shown := by
  intro other
  rw [← shows other]
  unfold lookup
  cases found : directory.buckets.lookup other with
  | none =>
      have gone :
          (directory.dropIfEmpty serviceId).buckets.lookup other =
            none := by
        apply Option.eq_none_iff_forall_ne_some.mpr
        intro endpoints kept
        have there := (tidy.lookup_dropIfEmpty _ _ _).mp kept
        rw [found] at there
        exact absurd there.1 (by simp)
      rw [gone]
  | some endpoints =>
      by_cases dropped : other = serviceId ∧ endpoints = []
      · have gone :
            (directory.dropIfEmpty serviceId).buckets.lookup other =
              none := by
          apply Option.eq_none_iff_forall_ne_some.mpr
          intro kept stays
          have there := (tidy.lookup_dropIfEmpty _ _ _).mp stays
          rw [found, Option.some.injEq] at there
          exact there.2 ⟨dropped.1, there.1 ▸ dropped.2⟩
        rw [gone, dropped.2]
        rfl
      · rw [(tidy.lookup_dropIfEmpty _ _ _).mpr ⟨found, dropped⟩]

/-- Unregistering as a whole. -/
theorem Shows.unregister
    (shows : directory.Shows shown)
    (tidy : directory.Tidy)
    (nodup : shown.Nodup)
    (endpoint : Endpoint) :
    (directory.unregister endpoint).Shows
      ((Change.strike endpoint).onRoll shown) :=
  (shows.withdraw nodup endpoint).dropIfEmpty (tidy.withdraw endpoint)
    endpoint.serviceId

/-- What is in a bucket is what a look-up of its service finds. -/
theorem Tidy.lookup_eq
    (tidy : directory.Tidy)
    {bucket : String × List Endpoint}
    (member : bucket ∈ directory.buckets) :
    directory.lookup bucket.1 = bucket.2 := by
  rw [lookup, tidy.lookup_eq_some.mpr member]
  rfl

/-- A directory holds what is on the roll that it shows, each endpoint once. -/
theorem Shows.held_perm
    (shows : directory.Shows shown)
    (tidy : directory.Tidy)
    (nodup : shown.Nodup) :
    directory.held ~ shown := by
  have once : directory.held.Nodup := by
    refine List.nodup_flatMap.mpr ⟨?_, ?_⟩
    · intro bucket member
      rw [← tidy.lookup_eq member, shows bucket.1]
      exact nodup.filter _
    · refine (List.pairwise_map.mp tidy).imp_of_mem ?_
      intro first second early late apart endpoint mine yours
      rw [← tidy.lookup_eq early, shows.mem_lookup] at mine
      rw [← tidy.lookup_eq late, shows.mem_lookup] at yours
      exact apart (mine.2.symm.trans yours.2)
  refine (List.perm_ext_iff_of_nodup once nodup).mpr fun endpoint => ?_
  rw [held, List.mem_flatMap]
  constructor
  · rintro ⟨bucket, member, inside⟩
    rw [← tidy.lookup_eq member, shows.mem_lookup] at inside
    exact inside.1
  · intro listed
    have found : endpoint ∈ directory.lookup endpoint.serviceId :=
      shows.mem_lookup.mpr ⟨listed, rfl⟩
    cases bucket : directory.buckets.lookup endpoint.serviceId with
    | none =>
        rw [lookup, bucket] at found
        exact absurd found List.not_mem_nil
    | some endpoints =>
        rw [lookup, bucket] at found
        exact ⟨_, tidy.lookup_eq_some.mp bucket, found⟩

/-! ## Doing a thing twice -/

/-- Two changes of one bucket are one. -/
theorem updateBucket_updateBucket
    (name : String)
    (first second : List Endpoint → List Endpoint)
    (buckets : List (String × List Endpoint)) :
    updateBucket name second (updateBucket name first buckets) =
      updateBucket name (second ∘ first) buckets := by
  induction buckets with
  | nil =>
      simp [updateBucket]
  | cons bucket rest inductionHypothesis =>
      by_cases here : bucket.1 = name <;>
        simp [updateBucket, here, inductionHypothesis]

/-- Registering twice is registering once. -/
theorem register_register
    (directory : Directory)
    (endpoint : Endpoint) :
    (directory.register endpoint).register endpoint =
      directory.register endpoint := by
  simp only [register, updateBucket_updateBucket]
  congr 2
  funext endpoints
  by_cases listed : endpoint ∈ endpoints <;>
    simp [listed]

/-- Unregistering twice is unregistering once. -/
theorem unregister_unregister
    (directory : Directory)
    (endpoint : Endpoint) :
    (directory.unregister endpoint).unregister endpoint =
      directory.unregister endpoint := by
  have settled :
      ((directory.unregister endpoint).withdraw endpoint).buckets =
        (directory.unregister endpoint).buckets := by
    rw [buckets_withdraw]
    refine (List.map_congr_left ?_).trans (List.map_id _)
    intro bucket member
    have left := (List.mem_filter.mp member).1
    rw [buckets_withdraw] at left
    obtain ⟨before, -, rfl⟩ := List.mem_map.mp left
    by_cases same : before.1 = endpoint.serviceId <;>
      simp [same, List.filter_filter]
  rw [unregister, dropIfEmpty, settled]
  simp [unregister, dropIfEmpty, List.filter_filter]

end Directory

end PluggableHost.Registry
