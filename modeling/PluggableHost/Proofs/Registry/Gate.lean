import PluggableHost.Proofs.Registry.Agreement
import PluggableHost.Proofs.Registry.Publication

namespace PluggableHost.Registry

open PluggableHost.Config PluggableHost.Net PluggableHost.Observability

/-!
# The gate of the heartbeat

The heartbeat may be turned on once a registration has come to its end.  The gate
stays open from then on: it neither looks at what the registration has published,
nor is it closed when endpoints are withdrawn.
-/

variable {ρ : Type}

/-- What a registrar is told to do, and what happens around it. -/
inductive Duty (ρ : Type) where
  | order (asked : Order)
  | activate
  | deactivate
  /-- Others change the registry, or turn switches. -/
  | elsewhere (registry : ρ) (switches : SwitchBoard)

namespace Duty

/-- What a duty leaves. -/
def doneBy
    (client : Option (RegistryClient ρ))
    (registrar : Registrar ρ) : Duty ρ → Registrar ρ
  | .order asked => asked.carriedOut client registrar
  | .activate => registrar.activateHeartbeat.registrar
  | .deactivate => registrar.deactivateHeartbeat.registrar
  | .elsewhere registry switches => { registrar with registry, switches }

/-- A duty is a registration, which succeeds. -/
def registers
    (client : Option (RegistryClient ρ))
    (registrar : Registrar ρ) : Duty ρ → Bool
  | .order (.register settings probe) =>
      (registrar.register client probe settings).value.isOk
  | _ => false

/-- A duty is to withdraw endpoints. -/
def withdraws : Duty ρ → Bool
  | .order (.unregister _) | .order .unregisterAll => true
  | _ => false

end Duty

/-- A new registrar after some duties. -/
def serving
    (client : Option (RegistryClient ρ))
    (registry : ρ)
    (switches : SwitchBoard)
    (duties : List (Duty ρ)) : Registrar ρ :=
  duties.foldl (Duty.doneBy client) { registry, switches }

/-- Some registration among the duties has succeeded. -/
def HasSucceeded
    (client : Option (RegistryClient ρ))
    (registry : ρ)
    (switches : SwitchBoard)
    (duties : List (Duty ρ)) : Prop :=
  ∃ earlier duty later,
    duties = earlier ++ duty :: later ∧
      duty.registers client (serving client registry switches earlier) = true

/-- One more duty is done after the others. -/
theorem serving_append
    (client : Option (RegistryClient ρ))
    (registry : ρ)
    (switches : SwitchBoard)
    (duties : List (Duty ρ))
    (duty : Duty ρ) :
    serving client registry switches (duties ++ [duty]) =
      duty.doneBy client (serving client registry switches duties) := by
  rw [serving, List.foldl_append]
  rfl

/-! ## What duties do to the mark of success -/

/-- Forgetting an endpoint leaves the flag as it was. -/
theorem hasRegistered_untrack
    (endpoint : Endpoint)
    (registrar : Registrar ρ) :
    (registrar.untrack endpoint).registrar.hasRegistered =
      registrar.hasRegistered := by
  unfold Registrar.untrack
  split <;> rfl

/-- Unregistering an endpoint leaves the flag as it was. -/
theorem hasRegistered_unregisterOne
    (client : Option (RegistryClient ρ))
    (endpoint : Endpoint)
    (registrar : Registrar ρ) :
    (registrar.unregisterOne client endpoint).registrar.hasRegistered =
      registrar.hasRegistered := by
  have untracked := hasRegistered_untrack endpoint registrar
  unfold Registrar.unregisterOne
  dsimp only
  split <;>
    exact untracked

@[simp] theorem hasRegistered_unregister
    (client : Option (RegistryClient ρ))
    (registrar : Registrar ρ)
    (endpoints : List Endpoint) :
    (registrar.unregister client endpoints).registrar.hasRegistered =
      registrar.hasRegistered := by
  induction endpoints generalizing registrar with
  | nil =>
      rfl
  | cons endpoint rest inductionHypothesis =>
      rw [Registrar.unregister]
      dsimp only
      rw [inductionHypothesis, hasRegistered_unregisterOne]

/-- Publishing endpoints leaves the flag as it was. -/
theorem hasRegistered_publishAll
    (client : RegistryClient ρ)
    (registrar : Registrar ρ)
    (endpoints : List Endpoint) :
    (registrar.publishAll client endpoints).registrar.hasRegistered =
      registrar.hasRegistered := by
  induction endpoints generalizing registrar with
  | nil =>
      rfl
  | cons endpoint rest inductionHypothesis =>
      rcases answered : client.register registrar.registry endpoint with
        ⟨refusal | accepted, registry⟩
      · simp [Registrar.publishAll, Registrar.publish_of_refused answered]
      · simp [Registrar.publishAll, Registrar.publish_of_accepted answered,
          inductionHypothesis]

/-- A registration leaves its mark when it succeeds, and only then. -/
theorem hasRegistered_register
    (client : Option (RegistryClient ρ))
    (probe : IpAddress → Option IpAddress)
    (settings : Settings)
    (registrar : Registrar ρ) :
    let step := registrar.register client probe settings
    step.registrar.hasRegistered =
      (registrar.hasRegistered || step.value.isOk) := by
  cases client with
  | none =>
      exact (Bool.or_false _).symm
  | some client =>
      have kept :=
        hasRegistered_publishAll client registrar
          (Registrar.endpointsFor settings
            (Registrar.reachableAddress probe settings.ip).1)
      simp only [Registrar.register]
      split
      · exact kept.trans (Bool.or_false _).symm
      · exact (Bool.or_true _).symm

/-- A duty raises the flag exactly when it registers. -/
theorem hasRegistered_doneBy
    (client : Option (RegistryClient ρ))
    (registrar : Registrar ρ)
    (duty : Duty ρ) :
    (duty.doneBy client registrar).hasRegistered =
      (registrar.hasRegistered || duty.registers client registrar) := by
  cases duty with
  | order asked =>
      cases asked with
      | register settings probe =>
          exact hasRegistered_register client probe settings registrar
      | unregister endpoints =>
          simp [Duty.doneBy, Duty.registers, Order.carriedOut]
      | unregisterAll =>
          simp [Duty.doneBy, Duty.registers, Order.carriedOut,
            Registrar.unregisterAll]
  | activate =>
      simp only [Duty.doneBy, Duty.registers, Registrar.activateHeartbeat,
        Bool.or_false]
      split <;> rfl
  | deactivate =>
      simp only [Duty.doneBy, Duty.registers, Registrar.deactivateHeartbeat,
        Bool.or_false]
      split <;> rfl
  | elsewhere registry switches =>
      exact (Bool.or_false _).symm

/-- The mark is there when some registration has succeeded. -/
theorem hasRegistered_serving_iff
    (client : Option (RegistryClient ρ))
    (registry : ρ)
    (switches : SwitchBoard)
    (duties : List (Duty ρ)) :
    (serving client registry switches duties).hasRegistered = true ↔
      HasSucceeded client registry switches duties := by
  induction duties using List.reverseRecOn with
  | nil =>
      constructor
      · intro marked
        cases marked
      · rintro ⟨earlier, duty, later, shape, -⟩
        simp at shape
  | append_singleton duties duty inductionHypothesis =>
      rw [serving_append, hasRegistered_doneBy, Bool.or_eq_true,
        inductionHypothesis]
      constructor
      · rintro (⟨earlier, done, later, rfl, succeeded⟩ | succeeded)
        · exact ⟨earlier, done, later ++ [duty], by simp, succeeded⟩
        · exact ⟨duties, duty, [], rfl, succeeded⟩
      · rintro ⟨earlier, done, later, shape, succeeded⟩
        rcases List.eq_nil_or_concat later with rfl | ⟨between, last, rfl⟩
        · obtain ⟨rfl, same⟩ := List.append_inj' shape rfl
          cases same
          exact .inr succeeded
        · refine .inl ⟨earlier, done, between, ?_, succeeded⟩
          rw [List.concat_eq_append, ← List.cons_append,
            ← List.append_assoc] at shape
          exact (List.append_inj' shape rfl).1

/-! ## What is registered as long as nothing is withdrawn -/

/-- A registration lists endpoints behind those that are listed, all of them if it succeeds. -/
theorem tracked_register
    (client : Option (RegistryClient ρ))
    (probe : IpAddress → Option IpAddress)
    (settings : Settings)
    (registrar : Registrar ρ) :
    let step := registrar.register client probe settings
    ∃ accepted,
      step.registrar.tracked = registrar.tracked ++ accepted ∧
        (step.value.isOk = true →
          accepted.map Endpoint.protocol = settings.enabledProtocols) := by
  cases client with
  | none =>
      exact ⟨[], (List.append_nil _).symm,
        fun succeeded => by cases succeeded⟩
  | some client =>
      have publishing :=
        Registrar.publishAll_spec client registrar
          (Registrar.endpointsFor settings
            (Registrar.reachableAddress probe settings.ip).1)
      simp only [Registrar.register]
      split
      · exact ⟨_, publishing.tracked, fun succeeded => by cases succeeded⟩
      · next complete =>
          refine ⟨_, publishing.tracked, fun _ => ?_⟩
          rw [publishing.complete complete]
          exact Registrar.protocol_endpointsFor _ _

/-- What is listed stays listed as long as nobody withdraws anything. -/
theorem tracked_prefix_doneBy
    (client : Option (RegistryClient ρ))
    (registrar : Registrar ρ)
    {duty : Duty ρ}
    (keeps : duty.withdraws = false) :
    registrar.tracked <+: (duty.doneBy client registrar).tracked := by
  cases duty with
  | order asked =>
      cases asked with
      | register settings probe =>
          obtain ⟨accepted, tracked, -⟩ :=
            tracked_register client probe settings registrar
          exact ⟨accepted, tracked.symm⟩
      | unregister endpoints | unregisterAll =>
          cases keeps
  | activate =>
      simp only [Duty.doneBy, Registrar.activateHeartbeat]
      split <;> exact List.prefix_rfl
  | deactivate =>
      simp only [Duty.doneBy, Registrar.deactivateHeartbeat]
      split <;> exact List.prefix_rfl
  | elsewhere registry switches =>
      exact List.prefix_rfl

/-- Duties that withdraw nothing only add to what is tracked. -/
theorem tracked_prefix_serving
    (client : Option (RegistryClient ρ))
    (registrar : Registrar ρ)
    {duties : List (Duty ρ)}
    (keep : ∀ duty ∈ duties, duty.withdraws = false) :
    registrar.tracked <+:
      (duties.foldl (Duty.doneBy client) registrar).tracked := by
  induction duties generalizing registrar with
  | nil =>
      exact List.prefix_rfl
  | cons duty rest inductionHypothesis =>
      have first :=
        tracked_prefix_doneBy client registrar
          (keep duty List.mem_cons_self)
      exact first.trans
        (inductionHypothesis _ fun other later =>
          keep other (List.mem_cons_of_mem _ later))

/-! ## The gate -/

/-- When the heartbeat can be turned on. -/
structure Gated
    (client : Option (RegistryClient ρ))
    (registry : ρ)
    (switches : SwitchBoard)
    (duties : List (Duty ρ)) : Prop where
  /-- After a success the heartbeat is turned on, and no other switch. -/
  opens :
    HasSucceeded client registry switches duties →
    let registrar := serving client registry switches duties
    let step := registrar.activateHeartbeat
    step.value = true ∧
      step.registrar.switches.isOn heartbeat = true ∧
      ∀ other ≠ heartbeat,
        step.registrar.switches.isOn other = registrar.switches.isOn other
  /-- Without a success there is no heartbeat, and nothing is changed. -/
  stays :
    ¬ HasSucceeded client registry switches duties →
    let registrar := serving client registry switches duties
    let step := registrar.activateHeartbeat
    step.value = false ∧ step.registrar = registrar
  /-- Something is registered if a success has published, and nothing was withdrawn since. -/
  stands :
    ∀ earlier settings probe later,
      duties = earlier ++ .order (.register settings probe) :: later →
      Duty.registers client (serving client registry switches earlier)
        (.order (.register settings probe)) = true →
      settings.enabledProtocols ≠ [] →
      (∀ duty ∈ later, duty.withdraws = false) →
      (serving client registry switches duties).tracked ≠ []

/-- Whatever a registrar has done, success alone decides about its heartbeat. -/
theorem gated
    (client : Option (RegistryClient ρ))
    (registry : ρ)
    (switches : SwitchBoard)
    (duties : List (Duty ρ)) :
    Gated client registry switches duties := by
  have marked := hasRegistered_serving_iff client registry switches duties
  constructor
  case opens =>
    intro succeeded registrar step
    have passed : registrar.hasRegistered = true := marked.mpr succeeded
    simp only [step, Registrar.activateHeartbeat, passed, ↓reduceIte]
    exact ⟨trivial, SwitchBoard.isOn_set_self _ _ _,
      fun other different => SwitchBoard.isOn_set_of_ne _ _ different⟩
  case stays =>
    intro failed registrar step
    have closed : registrar.hasRegistered = false :=
      Bool.eq_false_iff.mpr (mt marked.mp failed)
    simp only [step, Registrar.activateHeartbeat, closed,
      Bool.false_eq_true, ↓reduceIte]
    exact ⟨trivial, trivial⟩
  case stands =>
    rintro earlier settings probe later rfl succeeded publishes keep empty
    obtain ⟨accepted, tracked, complete⟩ :=
      tracked_register client probe settings
        (serving client registry switches earlier)
    have kept :=
      tracked_prefix_serving client
        (Duty.doneBy client (serving client registry switches earlier)
          (.order (.register settings probe)))
        keep
    rw [serving, List.foldl_append, List.foldl_cons] at empty
    rw [serving, empty, List.prefix_nil] at kept
    have nothing : accepted = [] :=
      (List.append_eq_nil_iff.mp (tracked.symm.trans kept)).2
    have enabled := complete succeeded
    rw [nothing] at enabled
    exact publishes enabled.symm

/-- The heartbeat can be turned on with nothing registered any more. -/
theorem heartbeat_after_withdrawal :
    let settings : Settings := { ip := "127.0.0.1", serviceId := "ledger" }
    let duties : List (Duty Directory) :=
      [.order (.register settings fun _ => none), .order .unregisterAll]
    let registrar := serving (some Directory.registry) {} {} duties
    let step := registrar.activateHeartbeat
    registrar.tracked = [] ∧
      registrar.switches.isOn heartbeat = false ∧
      step.value = true ∧
      step.registrar.switches.isOn heartbeat = true := by
  decide +kernel

end PluggableHost.Registry
