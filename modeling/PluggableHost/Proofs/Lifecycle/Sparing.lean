import PluggableHost.Lifecycle.Step
import PluggableHost.Proofs.Net.Opening
import PluggableHost.Proofs.Observability.Writing

namespace PluggableHost.Lifecycle

open PluggableHost.Config PluggableHost.Http PluggableHost.Net
open PluggableHost.Observability PluggableHost.Os PluggableHost.Plugin
open PluggableHost.Registry PluggableHost.Tls

/-!
# The parts of a host that leave the registry, the hooks and the state alone

Assembling the chain, making a TLS context, composing the service and opening
listeners call other plugins only, and report no new state.  Running startup hooks
calls these hooks and nothing else.
-/

variable {σ : Type}

/-- A part of a host that calls no registry and no hook and reports no new state. -/
abbrev Spares (journal : List Entry) : Prop :=
  ∀ entry ∈ journal, entry.spares

/-- An empty journal spares the registry. -/
theorem spares_nil : Spares [] :=
  fun _ member => absurd member List.not_mem_nil

/-- A journal spares the registry when its first entry and the rest do. -/
theorem spares_cons
    {entry : Entry}
    {rest : List Entry}
    (entrySpares : entry.spares)
    (restSpares : Spares rest) :
    Spares (entry :: rest) := by
  intro other member
  rcases List.mem_cons.mp member with rfl | later
  · exact entrySpares
  · exact restSpares other later

/-- A journal of one sparing entry spares the registry. -/
theorem spares_singleton
    {entry : Entry}
    (spares : entry.spares) :
    Spares [entry] :=
  spares_cons spares spares_nil

/-- Two journals that spare the registry spare it one after the other. -/
theorem spares_append
    {earlier later : List Entry}
    (earlierSpares : Spares earlier)
    (laterSpares : Spares later) :
    Spares (earlier ++ later) := by
  intro entry member
  rcases List.mem_append.mp member with inEarlier | inLater
  · exact earlierSpares entry inEarlier
  · exact laterSpares entry inLater

/-- The events of invalid settings. -/
theorem spares_problems
    (problems : List Problem) :
    Spares
      (problems.map fun problem =>
        startupEvent .error problem.message
          [("field", .text problem.field)]) := by
  intro entry member
  obtain ⟨problem, -, rfl⟩ := List.mem_map.mp member
  rfl

/-- What a startup hook reports spares the registry. -/
theorem spares_startupReport
    (hook : Hook) :
    Spares hook.startupReport := by
  unfold Hook.startupReport
  split
  · exact spares_singleton rfl
  · exact spares_cons rfl (spares_singleton rfl)
  · exact spares_cons rfl (spares_singleton rfl)

/-- What a shutdown hook reports spares the registry. -/
theorem spares_shutdownReport
    (hook : Hook) :
    Spares hook.shutdownReport := by
  unfold Hook.shutdownReport
  split
  · exact spares_singleton rfl
  · exact spares_cons rfl (spares_singleton rfl)

/-- However a listener has come to its end, only events tell of it. -/
theorem spares_farewell
    (rules : SocketRules)
    (listener : Listener) :
    Spares (listener.farewell rules) := by
  unfold Listener.farewell
  cases rules.fault? listener.handle with
  | none =>
      exact spares_singleton rfl
  | some fault =>
      exact spares_cons rfl (spares_singleton rfl)

/-- Asking the providers for their handlers spares the registry. -/
theorem spares_askProviders
    (providers : List (Provider σ)) :
    Spares (askProviders providers).2 := by
  induction providers with
  | nil =>
      exact spares_nil
  | cons provider rest inductionHypothesis =>
      unfold askProviders
      split
      · exact spares_cons rfl (spares_singleton rfl)
      · exact spares_cons rfl (spares_cons rfl inductionHypothesis)

/-- Finding the root handler spares the registry. -/
theorem spares_resolveRoot
    (providers : List (Provider σ)) :
    Spares (resolveRoot providers).journal := by
  refine Recorded.writes_bind
    (Recorded.writes_notes (spares_askProviders providers)) fun _ => ?_
  cases (askProviders providers).1 with
  | some handler =>
      exact Recorded.writes_pure handler
  | none =>
      exact Recorded.writes_bind (Recorded.writes_note rfl) fun _ =>
        Recorded.writes_fail _

/-- Asking the middleware for their names spares the registry. -/
theorem spares_askMiddleware
    (middleware : List (Middleware σ)) :
    Spares (askMiddleware middleware) := by
  intro entry member
  obtain ⟨link, -, written⟩ := List.mem_flatMap.mp member
  simp only [List.mem_cons, List.not_mem_nil, or_false] at written
  rcases written with rfl | rfl <;> rfl

/-- Assembling the chain spares the registry. -/
theorem spares_assemble
    (providers : List (Provider σ))
    (middleware : List (Middleware σ)) :
    Spares (assemble providers middleware).journal := by
  refine Recorded.writes_bind (spares_resolveRoot providers) fun root => ?_
  refine Recorded.writes_bind (Recorded.writes_note rfl) fun _ => ?_
  refine Recorded.writes_bind
    (Recorded.writes_notes (spares_askMiddleware middleware)) fun _ => ?_
  refine Recorded.writes_bind (Recorded.writes_notes ?_) fun _ => ?_
  · intro entry member
    obtain ⟨link, -, rfl⟩ := List.mem_map.mp member
    rfl
  refine Recorded.writes_bind (Recorded.writes_notes ?_) fun _ => ?_
  · intro entry member
    obtain ⟨link, -, rfl⟩ := List.mem_map.mp member
    rfl
  exact Recorded.writes_pure _

/-- Finding the address to publish spares the registry. -/
theorem spares_reachableAddress
    (probe : IpAddress → Option IpAddress)
    (ip : String) :
    Spares (Registrar.reachableAddress probe ip).2 := by
  unfold Registrar.reachableAddress
  dsimp only
  split
  · exact spares_nil
  · split
    · exact spares_nil
    · exact spares_singleton rfl

/-- Everything that making a TLS context writes is an event. -/
abbrev WritesEvents {α : Type} (part : Recorded HostError α) : Prop :=
  Recorded.Writes (fun entry => entry.event?.isSome = true) part

/-- A failure is recorded as an event. -/
theorem writesEvents_failWith
    {α : Type}
    (resource reason : String) :
    WritesEvents (failWith resource reason : Recorded HostError α) :=
  Recorded.writes_bind (Recorded.writes_note rfl) fun _ =>
    Recorded.writes_fail _

/-- A step that may fail records events only. -/
theorem writesEvents_orFail
    {α : Type}
    (resource : String)
    (outcome : Except String α) :
    WritesEvents (orFail resource outcome) := by
  cases outcome with
  | ok value =>
      exact Recorded.writes_pure value
  | error reason =>
      exact writesEvents_failWith resource reason

/-- Reading a file of key material records events only. -/
theorem writesEvents_readMaterial
    (source : MaterialSource)
    (name : String) :
    WritesEvents (readMaterial source name) := by
  have reported :
      WritesEvents (Recorded.notes (source name).journal) :=
    Recorded.writes_notes (source.onlyEvents name)
  unfold readMaterial
  cases found : (source name).outcome with
  | ok content =>
      simp only [found]
      exact Recorded.writes_bind reported fun _ =>
        Recorded.writes_pure content
  | error cause =>
      simp only [found]
      exact Recorded.writes_bind reported fun _ =>
        writesEvents_failWith _ _

/-- Reading certificates records events only. -/
theorem writesEvents_readCertificates
    (acceptance : Acceptance)
    (name : String)
    (file : Bytes) :
    WritesEvents (readCertificates acceptance name file) := by
  refine Recorded.writes_bind (writesEvents_orFail _ _) fun sections => ?_
  dsimp only
  split
  · exact writesEvents_failWith _ _
  · exact Recorded.writes_pure _

/-- Reading a private key records events only. -/
theorem writesEvents_readKey
    (acceptance : Acceptance)
    (name : String)
    (file : Bytes)
    (password : Option String) :
    WritesEvents (readKey acceptance name file password) := by
  unfold readKey
  split
  · split
    · exact writesEvents_failWith _ _
    · exact writesEvents_orFail _ _
  · refine Recorded.writes_bind (writesEvents_orFail _ _) fun sections => ?_
    split
    · exact writesEvents_failWith _ _
    · split
      · exact writesEvents_failWith _ _
      · exact Recorded.writes_pure _

/-- Adding roots to trust records events only. -/
theorem writesEvents_addRoots
    (acceptance : Acceptance)
    (name : String)
    (certificates : List Bytes) :
    WritesEvents (addRoots acceptance name certificates) := by
  induction certificates with
  | nil =>
      exact Recorded.writes_pure ()
  | cons certificate rest inductionHypothesis =>
      exact Recorded.writes_bind (writesEvents_orFail _ _) fun _ =>
        inductionHypothesis

/-- Reading the truststore records events only. -/
theorem writesEvents_readRoots
    (acceptance : Acceptance)
    (settings : Settings)
    (source : MaterialSource) :
    WritesEvents (readRoots acceptance settings source) := by
  refine Recorded.writes_bind
    (writesEvents_readMaterial _ _) fun file => ?_
  have others :
      WritesEvents
        (readCertificates acceptance settings.truststoreName file >>=
          fun roots =>
            addRoots acceptance settings.truststoreName roots >>=
              fun _ => Pure.pure roots) :=
    Recorded.writes_bind (writesEvents_readCertificates _ _ _) fun _ =>
      Recorded.writes_bind (writesEvents_addRoots _ _ _) fun _ =>
        Recorded.writes_pure _
  split
  · exact Recorded.writes_bind (Recorded.writes_note rfl) fun _ => others
  · exact others

/-- Checking the protocol version records events only. -/
theorem writesEvents_checkVersion
    (settings : Settings) :
    WritesEvents (checkVersion settings) := by
  unfold checkVersion
  split
  · exact Recorded.writes_pure ()
  · split
    · exact Recorded.writes_pure ()
    · exact Recorded.writes_fail _

/-- Building the TLS context records events only. -/
theorem writesEvents_build
    (acceptance : Acceptance)
    (settings : Settings)
    (source : MaterialSource) :
    WritesEvents (Context.build acceptance settings source) := by
  refine Recorded.writes_bind (writesEvents_readMaterial _ _) fun _ => ?_
  refine Recorded.writes_bind
    (writesEvents_readCertificates _ _ _) fun certificates => ?_
  refine Recorded.writes_bind (writesEvents_readKey _ _ _ _) fun key => ?_
  have paired (roots : List Bytes) (clientAuth : ClientAuth) :
      WritesEvents
        (orFail settings.keystoreName (acceptance.pair certificates key) >>=
          fun _ =>
            Recorded.note
                (tlsEvent .info "TLS context created"
                  [("keystore", .text settings.keystoreName),
                    ("client_auth", .text clientAuth.label),
                    ("protocol", .text (versionsText settings))]) >>=
              fun _ =>
                (Pure.pure
                    { clientAuth, protocols := offeredProtocols,
                      certificates, key, roots } :
                  Recorded HostError Context)) :=
    Recorded.writes_bind (writesEvents_orFail _ _) fun _ =>
      Recorded.writes_bind (Recorded.writes_note rfl) fun _ =>
        Recorded.writes_pure _
  by_cases twoWay : settings.enableTwoWayTls = true
  · simp only [twoWay, ↓reduceIte, reduceCtorEq]
    refine Recorded.writes_bind
      (writesEvents_readRoots _ _ _) fun roots => ?_
    refine Recorded.writes_bind (writesEvents_checkVersion _) fun _ => ?_
    exact paired roots .verify
  · simp only [twoWay, Bool.false_eq_true, ↓reduceIte]
    refine Recorded.writes_bind (Recorded.writes_pure []) fun roots => ?_
    refine Recorded.writes_bind (writesEvents_checkVersion _) fun _ => ?_
    refine Recorded.writes_bind (Recorded.writes_note rfl) fun _ => ?_
    exact paired roots .trustAll

/-- Making a TLS context calls no plugin at all. -/
theorem spares_build
    (acceptance : Acceptance)
    (settings : Settings)
    (source : MaterialSource) :
    Spares (Context.build acceptance settings source).journal :=
  fun entry member =>
    Entry.spares_of_event
      (writesEvents_build acceptance settings source entry member)

/-- Choosing the server header spares the registry. -/
theorem spares_serverHeader
    (asked : String) :
    Spares (serverHeader asked).2 := by
  unfold serverHeader
  split
  · exact spares_nil
  · exact spares_singleton rfl

/-- Composing the posture of the server spares the registry. -/
theorem spares_ofSettings?
    {settings : Settings}
    {posture : Posture}
    {journal : List Entry}
    (composed :
      Posture.ofSettings? settings = some (posture, journal)) :
    Spares journal := by
  unfold Posture.ofSettings? at composed
  dsimp only at composed
  split at composed
  · simp at composed
  · simp only [Option.some.injEq, Prod.mk.injEq] at composed
    rw [← composed.2]
    exact spares_serverHeader settings.serverString

/-- Binding the protocols spares the registry. -/
theorem spares_bindAll
    (settings : Settings)
    (hasContext : Bool)
    (network : Network)
    (protocols : List Protocol) :
    Spares (bindAll settings hasContext network protocols).journal :=
  fun entry member =>
    Entry.spares_of_event
      (events_bindAll settings hasContext network protocols entry member)

/-- Telling that the listeners serve spares the registry. -/
theorem spares_beganServing
    (settings : Settings)
    (listeners : List Listener) :
    Spares (beganServing settings listeners) := by
  refine spares_append (spares_append ?_ ?_) ?_
  · intro entry member
    obtain ⟨listener, -, rfl⟩ := List.mem_map.mp member
    rfl
  · split
    · exact spares_singleton rfl
    · exact spares_nil
  · exact spares_singleton rfl

/-- Opening listeners calls no plugin at all. -/
theorem spares_openListeners
    (settings : Settings)
    (hasContext : Bool)
    (network : Network) :
    Spares (openListeners settings hasContext network).journal := by
  have bound :=
    spares_bindAll settings hasContext network settings.enabledProtocols
  unfold openListeners
  dsimp only
  split
  · exact bound
  · exact spares_append bound (spares_beganServing settings _)

end PluggableHost.Lifecycle
