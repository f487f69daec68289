import Mathlib.Data.List.Dedup
import PluggableHost.Plugin.Locator

namespace PluggableHost.Plugin

/-!
# What was provided is found

A locator forgets the types of the services that it keeps, and passes over a slot
of another capability in silence.  No sequence of calls ever makes it do so: what
is kept for a capability are the services that were provided for it, in order.
-/

/-- One call that provides a service, for whatever capability. -/
abbrev Provision
    (κ : Type)
    (Service : κ → Type) : Type :=
  (capability : κ) × Service capability

variable
  {κ : Type}
  {Service : κ → Type}
  [DecidableEq κ]

/-- The service of a call, if it is one of the expected capability. -/
def Provision.service?
    (expected : κ)
    (provision : Provision κ Service) : Option (Service expected) :=
  if same : provision.1 = expected then some (same ▸ provision.2) else none

/-- The services that calls provided for a capability, in the order of the calls. -/
def servicesOf
    (capability : κ)
    (provisions : List (Provision κ Service)) : List (Service capability) :=
  provisions.filterMap (Provision.service? capability)

omit [DecidableEq κ] in
/-- The capabilities that calls provided services for. -/
def capabilitiesOf
    (provisions : List (Provision κ Service)) : List κ :=
  provisions.map Sigma.fst

/-- A provision adds its service at the end of its capability. -/
theorem servicesOf_concat_own
    (provisions : List (Provision κ Service))
    (capability : κ)
    (service : Service capability) :
    servicesOf capability (provisions ++ [⟨capability, service⟩]) =
      servicesOf capability provisions ++ [service] := by
  simp [servicesOf, Provision.service?]

/-- A provision leaves the services of other capabilities alone. -/
theorem servicesOf_concat_other
    {capability other : κ}
    (provisions : List (Provision κ Service))
    (service : Service capability)
    (different : other ≠ capability) :
    servicesOf other (provisions ++ [⟨capability, service⟩]) =
      servicesOf other provisions := by
  simp [servicesOf, Provision.service?, different.symm]

/-- Calls without the capability provide no services for it. -/
theorem servicesOf_eq_nil
    {capability : κ}
    {provisions : List (Provision κ Service)}
    (absent : capability ∉ capabilitiesOf provisions) :
    servicesOf capability provisions = [] := by
  refine List.filterMap_eq_nil_iff.mpr fun provision member => ?_
  refine dif_neg fun same => absent ?_
  exact same ▸ List.mem_map_of_mem member

/-! ## Slots -/

@[simp] theorem Slot.open?_own
    (capability : κ)
    (services : List (Service capability)) :
    Slot.open? capability ⟨capability, services⟩ = some services := by
  simp [open?]

@[simp] theorem Slot.push_own
    (capability : κ)
    (services : List (Service capability))
    (service : Service capability) :
    Slot.push capability service ⟨capability, services⟩ =
      ⟨capability, services ++ [service]⟩ := by
  simp [push]

/-- The slot under the key changes, or is begun, and the slots under others stay. -/
theorem slot?_updateSlot
    (key wanted : κ)
    (change : Slot κ Service → Slot κ Service)
    (slots : List (κ × Slot κ Service)) :
    (Locator.mk (updateSlot key change slots)).slot? wanted =
      if wanted = key then
        some (change (((Locator.mk slots).slot? key).getD ⟨key, []⟩))
      else (Locator.mk slots).slot? wanted := by
  induction slots with
  | nil =>
      by_cases same : wanted = key
      · simp [updateSlot, Locator.slot?, same]
      · simp [updateSlot, Locator.slot?, same, Ne.symm same]
  | cons entry rest inductionHypothesis =>
      obtain ⟨other, slot⟩ := entry
      unfold Locator.slot? at inductionHypothesis ⊢
      by_cases here : other = key
      · by_cases same : wanted = key
        · simp [updateSlot, here, same]
        · simp [updateSlot, here, same, Ne.symm same]
      · by_cases first : other = wanted
        · have apart : wanted ≠ key := fun same => here (first.trans same)
          simp [updateSlot, first, apart]
        · simp [updateSlot, here, first, inductionHypothesis]

/-- A change of a slot adds its key, unless this one is there already. -/
theorem keys_updateSlot
    (key : κ)
    (change : Slot κ Service → Slot κ Service)
    (slots : List (κ × Slot κ Service)) :
    (updateSlot key change slots).map Prod.fst =
      if key ∈ slots.map Prod.fst then slots.map Prod.fst
      else slots.map Prod.fst ++ [key] := by
  induction slots with
  | nil =>
      rfl
  | cons entry rest inductionHypothesis =>
      obtain ⟨other, slot⟩ := entry
      by_cases here : other = key
      · simp [updateSlot, here]
      · have apart : key ≠ other := Ne.symm here
        simp only [updateSlot, here, if_false, List.map_cons,
          inductionHypothesis, List.mem_cons, apart, false_or]
        split <;>
          rfl

namespace Locator

/-- A locator after some more calls. -/
def provideEach
    (locator : Locator κ Service)
    (provisions : List (Provision κ Service)) : Locator κ Service :=
  provisions.foldl
    (fun current provision => current.provide provision.1 provision.2)
    locator

/-- A locator keeps what calls provided, under the right keys and once for each. -/
structure Keeps
    (locator : Locator κ Service)
    (provisions : List (Provision κ Service)) : Prop where
  kept :
    ∀ capability,
      locator.slot? capability =
        if capability ∈ capabilitiesOf provisions then
          some ⟨capability, servicesOf capability provisions⟩
        else none
  distinct :
    (locator.slots.map Prod.fst).Nodup
  listed :
    ∀ capability,
      capability ∈ locator.slots.map Prod.fst ↔
        capability ∈ capabilitiesOf provisions

/-- A new locator keeps nothing. -/
theorem keeps_nothing : Keeps ({} : Locator κ Service) [] where
  kept := fun _ => rfl
  distinct := List.nodup_nil
  listed := fun _ => Iff.rfl

/-- One more call adds its service to the slot of its capability. -/
theorem Keeps.provide
    {locator : Locator κ Service}
    {provisions : List (Provision κ Service)}
    (keeps : locator.Keeps provisions)
    (capability : κ)
    (service : Service capability) :
    (locator.provide capability service).Keeps
      (provisions ++ [⟨capability, service⟩]) := by
  have listing :
      capabilitiesOf (provisions ++ [⟨capability, service⟩]) =
        capabilitiesOf provisions ++ [capability] := by
    simp [capabilitiesOf]
  constructor
  case kept =>
    intro wanted
    rw [show (locator.provide capability service).slot? wanted = _ from
        slot?_updateSlot capability wanted _ locator.slots,
      show (Locator.mk locator.slots).slot? capability = _ from
        keeps.kept capability,
      show (Locator.mk locator.slots).slot? wanted = _ from
        keeps.kept wanted,
      listing]
    by_cases same : wanted = capability
    · subst same
      rw [if_pos rfl, if_pos (List.mem_append_right _ List.mem_cons_self),
        servicesOf_concat_own, ← Slot.push_own]
      by_cases known : wanted ∈ capabilitiesOf provisions
      · rw [if_pos known, Option.getD_some]
      · rw [if_neg known, Option.getD_none, servicesOf_eq_nil known]
    · rw [if_neg same, servicesOf_concat_other provisions service same]
      simp only [List.mem_append, List.mem_singleton, same, or_false]
  case distinct =>
    rw [show (locator.provide capability service).slots.map Prod.fst = _
      from keys_updateSlot capability _ locator.slots]
    split
    · exact keeps.distinct
    · next absent =>
        exact List.concat_eq_append ▸ keeps.distinct.concat absent
  case listed =>
    intro wanted
    rw [show (locator.provide capability service).slots.map Prod.fst = _
      from keys_updateSlot capability _ locator.slots, listing,
      List.mem_append, ← keeps.listed wanted]
    split
    · next present =>
        constructor
        · exact .inl
        · rintro (known | here)
          · exact known
          · exact List.mem_singleton.mp here ▸ present
    · exact List.mem_append

/-- Whatever calls follow, the locator keeps what they provide as well. -/
theorem Keeps.provideEach
    {locator : Locator κ Service}
    {earlier : List (Provision κ Service)}
    (keeps : locator.Keeps earlier)
    (later : List (Provision κ Service)) :
    (locator.provideEach later).Keeps (earlier ++ later) := by
  induction later generalizing locator earlier with
  | nil =>
      rw [List.append_nil]
      exact keeps
  | cons provision rest inductionHypothesis =>
      have onwards :=
        inductionHypothesis (keeps.provide provision.1 provision.2)
      rw [List.append_assoc] at onwards
      exact onwards

section

variable
  {locator : Locator κ Service}
  {provisions : List (Provision κ Service)}

/-- A slot is found under its key, as no other has the same key. -/
theorem slot?_of_mem
    {capability : κ}
    {slot : Slot κ Service}
    (distinct : (locator.slots.map Prod.fst).Nodup)
    (member : (capability, slot) ∈ locator.slots) :
    locator.slot? capability = some slot := by
  obtain ⟨slots⟩ := locator
  change (slots.map Prod.fst).Nodup at distinct
  change (capability, slot) ∈ slots at member
  induction slots with
  | nil =>
      cases member
  | cons entry rest inductionHypothesis =>
      obtain ⟨fresh, others⟩ := List.nodup_cons.mp distinct
      rcases List.mem_cons.mp member with rfl | inRest
      · simp [slot?]
      · have apart : entry.1 ≠ capability := by
          rintro rfl
          exact fresh (List.mem_map.mpr ⟨_, inRest, rfl⟩)
        have found := inductionHypothesis others inRest
        simpa [slot?, apart] using found

/-- Reading the slot of a capability comes to what was provided for it. -/
theorem Keeps.opened
    (keeps : locator.Keeps provisions)
    (capability : κ) :
    ((locator.slot? capability).bind (Slot.open? capability)).getD [] =
      servicesOf capability provisions := by
  rw [keeps.kept]
  split
  · rw [Option.bind_some, Slot.open?_own, Option.getD_some]
  · next absent =>
      rw [Option.bind_none, Option.getD_none, servicesOf_eq_nil absent]

/-- The first service of a capability is the first provided. -/
theorem Keeps.first?_eq
    (keeps : locator.Keeps provisions)
    (capability : κ) :
    locator.first? capability =
      (servicesOf capability provisions).head? := by
  unfold first?
  rw [keeps.kept]
  split
  · rw [Option.bind_some, Slot.open?_own, Option.bind_some]
  · next absent =>
      rw [Option.bind_none, Option.bind_none, servicesOf_eq_nil absent]
      rfl

/-- There are as many slots as capabilities that services were provided for. -/
theorem Keeps.size_eq
    (keeps : locator.Keeps provisions) :
    locator.size = (capabilitiesOf provisions).dedup.length := by
  have same :
      (locator.slots.map Prod.fst).Perm
        (capabilitiesOf provisions).dedup :=
    (List.perm_ext_iff_of_nodup keeps.distinct
      (List.nodup_dedup _)).mpr fun capability =>
        (keeps.listed capability).trans List.mem_dedup.symm
  rw [← same.length_eq, List.length_map]
  rfl

end

/-- What a locator does after calls that provided services, in whatever order. -/
structure Faithful
    (provisions : List (Provision κ Service))
    (locator : Locator κ Service) : Prop where
  /-- What is stored under the key of a capability is of that capability. -/
  keyed :
    ∀ capability slot,
      (capability, slot) ∈ locator.slots → slot.capability = capability
  /-- The slot of a provided capability is there, and a reader gets it open. -/
  opened :
    ∀ capability ∈ capabilitiesOf provisions,
      (locator.slot? capability).bind (Slot.open? capability) =
        some (servicesOf capability provisions)
  /-- The slot that one more call writes to takes the service. -/
  taken :
    ∀ capability (service : Service capability),
      Slot.push capability service
          ((locator.slot? capability).getD ⟨capability, []⟩) =
        ⟨capability, servicesOf capability provisions ++ [service]⟩
  all :
    ∀ capability,
      locator.all capability = servicesOf capability provisions
  first :
    ∀ capability,
      locator.first? capability =
        (servicesOf capability provisions).head?
  /-- One more call adds its service behind those of its capability. -/
  own :
    ∀ capability (service : Service capability),
      (locator.provide capability service).all capability =
        locator.all capability ++ [service]
  /-- One more call leaves every other capability as it is. -/
  apart :
    ∀ capability (service : Service capability) other,
      other ≠ capability →
        (locator.provide capability service).all other =
            locator.all other ∧
          (locator.provide capability service).first? other =
            locator.first? other
  counted :
    locator.size = (capabilitiesOf provisions).dedup.length
  /-- The text of a locator tells how many capabilities there are. -/
  shown :
    locator.text =
      "ServiceLocator \x7b capabilities: " ++
        toString (capabilitiesOf provisions).dedup.length ++ " \x7d"

/-- A locator loses and mixes nothing of what is provided to it. -/
theorem faithful_provideEach
    (provisions : List (Provision κ Service)) :
    Faithful provisions (provideEach {} provisions) := by
  have keeps : (provideEach {} provisions).Keeps provisions :=
    keeps_nothing.provideEach provisions
  constructor
  case keyed =>
    intro capability slot member
    have found := slot?_of_mem keeps.distinct member
    rw [keeps.kept] at found
    split at found
    · exact Option.some.inj found ▸ rfl
    · cases found
  case opened =>
    intro capability provided
    rw [keeps.kept, if_pos provided, Option.bind_some, Slot.open?_own]
  case taken =>
    intro capability service
    rw [keeps.kept, ← Slot.push_own]
    split
    · rfl
    · next absent =>
        rw [Option.getD_none, servicesOf_eq_nil absent]
  case all =>
    exact keeps.opened
  case first =>
    exact keeps.first?_eq
  case own =>
    intro capability service
    refine ((keeps.provide capability service).opened capability).trans ?_
    rw [servicesOf_concat_own, ← keeps.opened capability]
    rfl
  case apart =>
    intro capability service other different
    have after := keeps.provide capability service
    constructor
    · refine (after.opened other).trans ?_
      rw [servicesOf_concat_other _ _ different, ← keeps.opened other]
      rfl
    · rw [after.first?_eq, keeps.first?_eq,
        servicesOf_concat_other _ _ different]
  case counted =>
    exact keeps.size_eq
  case shown =>
    unfold text
    rw [keeps.size_eq]

end Locator

end PluggableHost.Plugin
