import PluggableHost.Proofs.Net.Requests
import PluggableHost.Proofs.Observability.Reading

namespace PluggableHost.Net

open PluggableHost.Config PluggableHost.Observability PluggableHost.Os

/-!
# Listeners open together and close together

An attempt to open listeners has one of two ends.  Either the machine granted all that it
was asked for, each enabled protocol is served on the address that its socket was bound
to, and the gauge of open listeners tells how many they are; or the network is as it
was, the gauge is not touched, and the failure names the address for which the machine
first refused something.  Stopped listeners are closed, all of them and whatever has
become of the network, and there is nothing left to stop.
-/

/-! ## What binding leaves -/

/-- Every listener has a socket of its own, which was not there before. -/
theorem Bound.opened_le
    {settings : Settings}
    {network after : Network}
    {protocols : List Protocol}
    {listeners : List Listener}
    (bound : Bound settings network protocols listeners after) :
    ∀ listener ∈ listeners, network.opened ≤ listener.handle := by
  induction bound with
  | none network =>
      simp
  | next first others inductionHypothesis =>
      obtain ⟨-, opened, handle, -⟩ := sockets_of_bindListener_ok first
      intro listener member
      rcases List.mem_cons.mp member with rfl | later
      · exact Nat.le_of_eq handle.symm
      · have above := inductionHypothesis listener later
        omega

/-- Entries that are events tell nothing of open listeners. -/
theorem openings_eq_nil_of_events
    {journal : List Entry}
    (events : ∀ entry ∈ journal, entry.event?.isSome = true) :
    openings journal = [] := by
  apply List.filterMap_eq_nil_iff.mpr
  intro entry member
  have isEvent := events entry member
  cases entry with
  | event value =>
      rfl
  | metric value =>
      cases isEvent
  | call value =>
      cases isEvent

/-- Who begins to serve tells of the number of listeners once. -/
theorem openings_beganServing
    (settings : Settings)
    (listeners : List Listener) :
    openings (beganServing settings listeners) = [listeners.length] := by
  have started :
      openings
          (listeners.map fun listener =>
            listenerEvent .info listener.title
              [("ip", .text settings.ip),
                ("port", .number listener.address.port.toNat)]) =
        [] := by
    apply openings_eq_nil_of_events
    intro entry member
    obtain ⟨listener, -, rfl⟩ := List.mem_map.mp member
    rfl
  unfold beganServing
  rw [openings_append, openings_append, started]
  split <;> rfl

/-- Who opens listeners tells of their number, once and at the end, or not at all. -/
theorem openings_openListeners
    (settings : Settings)
    (hasContext : Bool)
    (network : Network) :
    openings (openListeners settings hasContext network).journal =
      match (openListeners settings hasContext network).outcome with
      | .ok listeners => [listeners.length]
      | .error _ => [] := by
  have silent :=
    openings_eq_nil_of_events
      (events_bindAll settings hasContext network settings.enabledProtocols)
  unfold openListeners
  dsimp only
  split
  · next failure bound =>
      rw [bound]
      exact silent
  · rw [openings_append, silent, openings_beganServing]
    rfl

/-! ## Stopping -/

/-- Stopped listeners are closed, along with whatever else was draining. -/
theorem sockets_drain_setStages
    (listeners : List Listener)
    (network : Network) :
    (setStages .draining listeners network).drain.sockets =
      network.sockets.filter fun socket =>
        socket.handle ∉ listeners.map Listener.handle &&
          socket.stage != .draining := by
  show
    (setStages .draining listeners network).sockets.filter
        (fun socket => socket.stage != .draining) = _
  rw [sockets_setStages]
  generalize listeners.map Listener.handle = handles
  induction network.sockets with
  | nil =>
      rfl
  | cons socket rest inductionHypothesis =>
      by_cases own : socket.handle ∈ handles <;>
        by_cases draining : socket.stage = .draining <;>
        simp [own, draining, inductionHypothesis]

/-- What it is to stop listeners, on a network and after a journal. -/
structure Listening.Closes
    (listening : Listening)
    (network : Network)
    (journal : List Entry) : Prop where
  /-- No listener is shown any more. -/
  emptied : (listening.stop network).1.listeners = []
  closed :
    ∀ listener ∈ listening.listeners,
      (listening.stop network).2.1.isOpen listener.handle = false
  /-- Sockets of others stay as they are. -/
  others :
    ∀ socket ∈ network.sockets,
      socket.handle ∉ listening.listeners.map Listener.handle →
      socket.stage ≠ .draining →
      socket ∈ (listening.stop network).2.1.sockets
  told :
    listenersOpen (journal ++ (listening.stop network).2.2) = 0
  /-- There is nothing left to stop. -/
  idle :
    ∀ later,
      (listening.stop network).1.stop later =
        ((listening.stop network).1, later, [])

/-- Who stops listeners closes them, if the journal has told how many there are. -/
theorem Listening.closes
    {listening : Listening}
    {journal : List Entry}
    (told : listenersOpen journal = listening.listeners.length)
    (network : Network) :
    listening.Closes network journal := by
  obtain ⟨listeners⟩ := listening
  cases listeners with
  | nil =>
      exact
        { emptied := rfl
          closed := by simp
          others := fun _ member _ _ => member
          told := (congrArg listenersOpen (List.append_nil journal)).trans told
          idle := fun _ => rfl }
  | cons first rest =>
      have stopped :
          Listening.stop ⟨first :: rest⟩ network =
            ({}, (setStages .draining (first :: rest) network).drain,
              (first :: rest).flatMap (Listener.farewell network.rules) ++
                [.metric (.openListeners 0)]) :=
        rfl
      have sockets := sockets_drain_setStages (first :: rest) network
      constructor
      case emptied =>
        rw [stopped]
      case closed =>
        intro listener member
        rw [stopped, Network.isOpen, sockets]
        rw [List.any_eq_false]
        intro socket left same
        have foreign := (List.mem_filter.mp left).2
        simp only [Bool.and_eq_true, decide_eq_true_eq] at foreign same
        exact foreign.1 (same ▸ List.mem_map_of_mem member)
      case others =>
        intro socket member foreign steady
        rw [stopped, sockets]
        exact List.mem_filter.mpr
          ⟨member, by simpa [steady] using foreign⟩
      case told =>
        rw [stopped, listenersOpen_eq, openings_append, openings_append,
          ← List.append_assoc]
        exact List.getLastD_concat
      case idle =>
        intro later
        rw [stopped]
        rfl

/-! ## Both ends of an attempt -/

/-- Listeners serve, one for each enabled protocol. -/
structure Opening.Serves
    (settings : Settings)
    (hasContext : Bool)
    (before : Network)
    (opening : Opening (List Listener))
    (listeners : List Listener) : Prop where
  protocols : listeners.map Listener.protocol = settings.enabledProtocols
  /-- There is one serving socket for each, on the address that the listener shows. -/
  sockets :
    opening.network.sockets =
      before.sockets ++
        listeners.map fun listener => listener.socket .serving
  fresh : ∀ listener ∈ listeners, before.opened ≤ listener.handle
  distinct : (listeners.map Listener.handle).Nodup
  /-- The machine granted every operation, and the address shown is the one bound. -/
  granted :
    Granted before.rules settings before.sockets before.opened
      settings.enabledProtocols listeners
  secured : settings.enableHttps = true → hasContext = true
  told :
    ∀ earlier,
      listenersOpen (earlier ++ opening.journal) = listeners.length

/-- Nothing is left of an attempt but the failure that names what is to blame. -/
structure Opening.Undone
    (settings : Settings)
    (hasContext : Bool)
    (before : Network)
    (opening : Opening (List Listener))
    (failure : HostError) : Prop where
  sockets : opening.network.sockets = before.sockets
  closed :
    ∀ handle,
      before.opened ≤ handle → opening.network.isOpen handle = false
  untouched :
    ∀ earlier,
      listenersOpen (earlier ++ opening.journal) = listenersOpen earlier
  /-- The failure is what the machine first refused, or a context that is missing. -/
  denied :
    Denied before.rules settings hasContext before.sockets before.opened
      settings.enabledProtocols failure

/-- An opening that succeeds serves. -/
theorem serves_of_openListeners_ok
    {settings : Settings}
    {hasContext : Bool}
    {network : Network}
    {listeners : List Listener}
    (opened :
      (openListeners settings hasContext network).outcome =
        .ok listeners) :
    (openListeners settings hasContext network).Serves settings hasContext
      network listeners := by
  obtain ⟨sockets, protocols, distinct⟩ := sockets_of_openListeners_ok opened
  have found := serving_or_blames settings hasContext network
  rw [opened] at found
  obtain ⟨secured, after, bound⟩ := found
  have openings := openings_openListeners settings hasContext network
  rw [opened] at openings
  exact
    { protocols, sockets, distinct, secured
      fresh := bound.opened_le
      granted := bound.granted
      told := fun earlier => by
        rw [listenersOpen_eq, openings_append, openings]
        exact List.getLastD_concat }

/-- An opening that fails is undone. -/
theorem undone_of_openListeners_error
    {settings : Settings}
    {hasContext : Bool}
    {network : Network}
    {failure : HostError}
    (opened :
      (openListeners settings hasContext network).outcome =
        .error failure) :
    (openListeners settings hasContext network).Undone settings hasContext
      network failure := by
  have sockets := sockets_of_openListeners_error opened
  have blames := serving_or_blames settings hasContext network
  rw [opened] at blames
  have openings := openings_openListeners settings hasContext network
  rw [opened] at openings
  refine
    { sockets
      denied := blames.denied
      closed := ?closed
      untouched := ?untouched }
  case closed =>
    intro handle above
    rw [Network.isOpen, sockets, List.any_eq_false]
    intro socket member same
    have below := network.handle_lt socket member
    rw [of_decide_eq_true same] at below
    omega
  case untouched =>
    intro earlier
    rw [listenersOpen_eq, listenersOpen_eq, openings_append, openings,
      List.append_nil]

/--
Listeners are opened for all enabled protocols or for none, and those that are opened
are closed together, whatever becomes of the network meanwhile and as long as nobody
else tells of a number of listeners.
-/
theorem openListeners_allOrNothing
    (settings : Settings)
    (hasContext : Bool)
    (network : Network) :
    let opening := openListeners settings hasContext network
    match opening.outcome with
    | .ok listeners =>
        opening.Serves settings hasContext network listeners ∧
          ∀ earlier meanwhile later,
            openings meanwhile = [] →
            Listening.Closes { listeners } later
              (earlier ++ opening.journal ++ meanwhile)
    | .error failure =>
        opening.Undone settings hasContext network failure := by
  intro opening
  cases opened : opening.outcome with
  | error failure =>
      exact undone_of_openListeners_error opened
  | ok listeners =>
      have serves := serves_of_openListeners_ok opened
      refine ⟨serves, fun earlier meanwhile later silent => ?_⟩
      apply Listening.closes
      have told := serves.told earlier
      rw [listenersOpen_eq] at told ⊢
      rw [openings_append, silent, List.append_nil]
      exact told

end PluggableHost.Net
