import PluggableHost.Net.Listener

namespace PluggableHost.Net

open PluggableHost.Config PluggableHost.Observability PluggableHost.Os

/-!
# Opening listeners is all or nothing

Whatever a machine refuses, an attempt to listen leaves the sockets that were
open before as they were.  A success adds exactly one socket for each listener,
in the order of the protocols, and a failure adds none: the socket of the step
that was refused is closed, and so are those bound before it.
-/

/-- The stage of a socket after an operation that was not refused. -/
def SocketOperation.stageAfter : SocketOperation → SocketStage → SocketStage
  | .bind, _ => .bound
  | .listen, _ => .listening
  | _, stage => stage

@[simp] theorem Socket.stage_after
    (free : UInt16)
    (socket : Socket)
    (operation : SocketOperation) :
    (socket.after free operation).stage =
      operation.stageAfter socket.stage := by
  cases operation <;> rfl

/-- The socket of a listener, at some stage. -/
def Listener.socket (listener : Listener) (stage : SocketStage) : Socket :=
  { handle := listener.handle, address := listener.address, stage }

namespace Network

/-- Closing the socket opened last leaves the others. -/
theorem sockets_close_last
    {network : Network}
    {others : List Socket}
    {socket : Socket}
    (shape : network.sockets = others ++ [socket])
    (fresh : ∀ other ∈ others, other.handle ≠ socket.handle) :
    (network.close socket.handle).sockets = others := by
  have kept :
      others.filter (fun other => other.handle != socket.handle) =
        others :=
    List.filter_eq_self.mpr (by simpa using fresh)
  simp [close, shape, List.filter_append, kept]

/-- Changing the socket opened last leaves the others. -/
theorem sockets_update_last
    {network : Network}
    {others : List Socket}
    {socket : Socket}
    (change : Socket → Socket)
    (shape : network.sockets = others ++ [socket])
    (fresh : ∀ other ∈ others, other.handle ≠ socket.handle)
    (keepsHandle : (change socket).handle = socket.handle) :
    (network.update socket.handle change).sockets =
      others ++ [change socket] := by
  have kept :
      others.map (fun other =>
          if other.handle = socket.handle then
            { change other with handle := socket.handle }
          else other) =
        others := by
    refine (List.map_congr_left ?_).trans (List.map_id others)
    intro other member
    simp [fresh other member]
  have changed :
      ({ change socket with handle := socket.handle } : Socket) =
        change socket := by
    rw [← keepsHandle]
  simp [update, shape, kept, changed]

/-- Operations that were carried out leave the socket open, with its handle. -/
theorem sockets_of_carryOut_ok
    {settings : SocketSettings}
    {operations : List SocketOperation}
    {network after : Network}
    {others : List Socket}
    {socket last : Socket}
    (shape : network.sockets = others ++ [socket])
    (fresh : ∀ other ∈ others, other.handle ≠ socket.handle)
    (carried :
      network.carryOut settings socket operations = (.ok last, after)) :
    after.sockets = others ++ [last] ∧
      after.opened = network.opened ∧
      last.handle = socket.handle ∧
      last.stage =
        operations.foldl
          (fun stage operation => operation.stageAfter stage)
          socket.stage := by
  induction operations generalizing network socket with
  | nil =>
      simp only [carryOut, Prod.mk.injEq, Except.ok.injEq] at carried
      obtain ⟨rfl, rfl⟩ := carried
      exact ⟨shape, rfl, rfl, rfl⟩
  | cons operation rest inductionHypothesis =>
      unfold carryOut at carried
      split at carried
      · simp at carried
      · have changed :=
          sockets_update_last
            (fun current =>
              current.after
                (network.rules.freePort socket.address network.sockets)
                operation)
            shape fresh (by simp)
        simpa [update] using
          inductionHypothesis changed (by simpa using fresh) carried

/-- The first refusal closes the socket, and no other. -/
theorem sockets_of_carryOut_error
    {settings : SocketSettings}
    {operations : List SocketOperation}
    {network after : Network}
    {others : List Socket}
    {socket : Socket}
    {cause : Failure}
    (shape : network.sockets = others ++ [socket])
    (fresh : ∀ other ∈ others, other.handle ≠ socket.handle)
    (carried :
      network.carryOut settings socket operations = (.error cause, after)) :
    after.sockets = others := by
  induction operations generalizing network socket with
  | nil =>
      simp [carryOut] at carried
  | cons operation rest inductionHypothesis =>
      unfold carryOut at carried
      split at carried
      · simp only [Prod.mk.injEq] at carried
        rw [← carried.2]
        exact sockets_close_last shape fresh
      · have changed :=
          sockets_update_last
            (fun current =>
              current.after
                (network.rules.freePort socket.address network.sockets)
                operation)
            shape fresh (by simp)
        exact inductionHypothesis changed (by simpa using fresh) carried

/-- No open socket has the handle that the next one gets. -/
theorem handle_ne_opened
    (network : Network) :
    ∀ other ∈ network.sockets, other.handle ≠ network.opened :=
  fun other member => Nat.ne_of_lt (network.handle_lt other member)

/-- A listening socket is added behind those that were open. -/
theorem sockets_of_listenOn_ok
    {network after : Network}
    {settings : SocketSettings}
    {wanted : SocketAddress}
    {socket : Socket}
    (listened : network.listenOn settings wanted = (.ok socket, after)) :
    after.sockets = network.sockets ++ [socket] ∧
      after.opened = network.opened + 1 ∧
      socket.handle = network.opened ∧
      socket.stage = .listening := by
  unfold listenOn at listened
  split at listened
  · simp at listened
  · exact sockets_of_carryOut_ok rfl network.handle_ne_opened listened

/-- A refused attempt to listen leaves the open sockets as they were. -/
theorem sockets_of_listenOn_error
    {network after : Network}
    {settings : SocketSettings}
    {wanted : SocketAddress}
    {cause : Failure}
    (listened : network.listenOn settings wanted = (.error cause, after)) :
    after.sockets = network.sockets := by
  unfold listenOn at listened
  split at listened
  · simp only [Prod.mk.injEq] at listened
    rw [← listened.2]
  · exact sockets_of_carryOut_error rfl network.handle_ne_opened listened

end Network

/-- A socket that was bound listens, behind those that were open. -/
theorem sockets_of_bind_ok
    {wish : SocketSettings}
    {address : String}
    {network : Network}
    {socket : Socket}
    (bound : (bind wish address network).outcome = .ok socket) :
    (bind wish address network).network.sockets =
        network.sockets ++ [socket] ∧
      (bind wish address network).network.opened = network.opened + 1 ∧
      socket.handle = network.opened ∧
      socket.stage = .listening := by
  unfold bind at bound ⊢
  cases parsed : SocketAddress.parse? address with
  | none =>
      simp [parsed, unableToBind] at bound
  | some wanted =>
      rcases listened : network.listenOn wish wanted with
        ⟨cause | last, after⟩
      · simp [parsed, listened, unableToBind] at bound
      · simp only [parsed, listened, Except.ok.injEq] at bound ⊢
        subst bound
        exact Network.sockets_of_listenOn_ok listened

/-- An address that could not be bound leaves no socket open. -/
theorem sockets_of_bind_error
    {wish : SocketSettings}
    {address : String}
    {network : Network}
    {failure : HostError}
    (bound : (bind wish address network).outcome = .error failure) :
    (bind wish address network).network.sockets = network.sockets := by
  unfold bind at bound ⊢
  cases parsed : SocketAddress.parse? address with
  | none =>
      simp [unableToBind]
  | some wanted =>
      rcases listened : network.listenOn wish wanted with
        ⟨cause | last, after⟩
      · simpa [listened, unableToBind] using
          Network.sockets_of_listenOn_error listened
      · simp [parsed, listened] at bound

/-- A bound listener is one more listening socket. -/
theorem sockets_of_bindListener_ok
    {settings : Settings}
    {network : Network}
    {protocol : Protocol}
    {listener : Listener}
    (opened :
      (bindListener settings network protocol).outcome = .ok listener) :
    let after := (bindListener settings network protocol).network
    after.sockets = network.sockets ++ [listener.socket .listening] ∧
      after.opened = network.opened + 1 ∧
      listener.handle = network.opened ∧
      listener.protocol = protocol := by
  unfold bindListener at opened ⊢
  cases bound :
      (bind (.ofSettings settings) (settings.listenAddress protocol)
        network).outcome with
  | error failure =>
      simp [bound] at opened
  | ok socket =>
      obtain ⟨sockets, count, handle, stage⟩ := sockets_of_bind_ok bound
      simp only [bound] at opened ⊢
      split at opened
      · simp at opened
      · simp only [Except.ok.injEq] at opened
        subst opened
        simp only [Listener.socket, ← stage]
        exact ⟨sockets, count, handle, trivial⟩

/-- A listener that could not be bound leaves no socket open. -/
theorem sockets_of_bindListener_error
    {settings : Settings}
    {network : Network}
    {protocol : Protocol}
    {failure : HostError}
    (opened :
      (bindListener settings network protocol).outcome =
        .error failure) :
    (bindListener settings network protocol).network.sockets =
      network.sockets := by
  unfold bindListener at opened ⊢
  cases bound :
      (bind (.ofSettings settings) (settings.listenAddress protocol)
        network).outcome with
  | error cause =>
      simpa only [bound] using sockets_of_bind_error bound
  | ok socket =>
      obtain ⟨sockets, -, handle, -⟩ := sockets_of_bind_ok bound
      simp only [bound] at opened ⊢
      split at opened
      · refine Network.sockets_close_last sockets ?_
        rw [handle]
        exact network.handle_ne_opened
      · simp at opened

/--
The listeners of several protocols are bound one after the other.  The proof
term is parenthesised so that the equation is not taken for a definitional one,
which would be checked by unfolding all of `bindListener`.
-/
theorem bindAll_cons
    (settings : Settings)
    (hasContext : Bool)
    (network : Network)
    (protocol : Protocol)
    (rest : List Protocol) :
    bindAll settings hasContext network (protocol :: rest) =
      if protocol = .tls && !hasContext then
        { outcome := .error (missingContext settings), network }
      else
        let first := bindListener settings network protocol
        match first.outcome with
        | .error failure =>
            ⟨.error failure, first.network, first.journal⟩
        | .ok listener =>
            let others := bindAll settings hasContext first.network rest
            let journal := first.journal ++ others.journal
            match others.outcome with
            | .error failure =>
                ⟨.error failure, others.network.close listener.handle,
                  journal⟩
            | .ok listeners =>
                ⟨.ok (listener :: listeners), others.network, journal⟩ :=
  (rfl)

/--
Binding the listeners of several protocols adds one listening socket for each
of them, in order, with handles that were not in use.
-/
theorem sockets_of_bindAll_ok
    {settings : Settings}
    {hasContext : Bool}
    {network : Network}
    {protocols : List Protocol}
    {listeners : List Listener}
    (bound :
      (bindAll settings hasContext network protocols).outcome =
        .ok listeners) :
    (bindAll settings hasContext network protocols).network.sockets =
        network.sockets ++
          listeners.map (fun listener => listener.socket .listening) ∧
      listeners.map Listener.protocol = protocols ∧
      (∀ listener ∈ listeners, network.opened ≤ listener.handle) ∧
      (listeners.map Listener.handle).Nodup := by
  induction protocols generalizing network listeners with
  | nil =>
      have none : listeners = [] :=
        (Except.ok.inj bound).symm
      subst none
      exact ⟨(List.append_nil _).symm, rfl, by simp, List.nodup_nil⟩
  | cons protocol rest inductionHypothesis =>
      rw [bindAll_cons] at bound ⊢
      by_cases lacking : (protocol = .tls && !hasContext) = true
      · simp [lacking] at bound
      rw [if_neg lacking] at bound ⊢
      cases first :
          (bindListener settings network protocol).outcome with
      | error failure =>
          simp [first] at bound
      | ok listener =>
          obtain ⟨firstSockets, opened, handle, firstProtocol⟩ :=
            sockets_of_bindListener_ok first
          cases others :
              (bindAll settings hasContext
                (bindListener settings network protocol).network
                rest).outcome with
          | error failure =>
              simp [first, others] at bound
          | ok later =>
              obtain ⟨sockets, protocols, handles, distinct⟩ :=
                inductionHypothesis others
              simp only [first, others, Except.ok.injEq] at bound ⊢
              subst bound
              rw [opened] at handles
              refine ⟨?_, ?_, ?_, ?_⟩
              · simp [sockets, firstSockets]
              · simp [protocols, firstProtocol]
              · intro other member
                rcases List.mem_cons.mp member with rfl | inLater
                · exact Nat.le_of_eq handle.symm
                · exact Nat.le_of_succ_le (handles other inLater)
              · simp only [List.map_cons, List.nodup_cons,
                  List.mem_map, not_exists, not_and]
                refine ⟨?_, distinct⟩
                intro other inLater sameHandle
                have above := handles other inLater
                omega

/-- When one protocol cannot be bound, no socket of any stays open. -/
theorem sockets_of_bindAll_error
    {settings : Settings}
    {hasContext : Bool}
    {network : Network}
    {protocols : List Protocol}
    {failure : HostError}
    (bound :
      (bindAll settings hasContext network protocols).outcome =
        .error failure) :
    (bindAll settings hasContext network protocols).network.sockets =
      network.sockets := by
  induction protocols generalizing network failure with
  | nil =>
      rfl
  | cons protocol rest inductionHypothesis =>
      rw [bindAll_cons] at bound ⊢
      by_cases lacking : (protocol = .tls && !hasContext) = true
      · rw [if_pos lacking]
      rw [if_neg lacking] at bound ⊢
      cases first :
          (bindListener settings network protocol).outcome with
      | error firstFailure =>
          simpa only [first] using sockets_of_bindListener_error first
      | ok listener =>
          obtain ⟨firstSockets, -, handle, -⟩ :=
            sockets_of_bindListener_ok first
          cases others :
              (bindAll settings hasContext
                (bindListener settings network protocol).network
                rest).outcome with
          | ok later =>
              simp [first, others] at bound
          | error laterFailure =>
              simp only [first, others]
              have shape :
                  (bindAll settings hasContext
                      (bindListener settings network protocol).network
                      rest).network.sockets =
                    network.sockets ++ [listener.socket .listening] := by
                rw [inductionHypothesis others, firstSockets]
              refine Network.sockets_close_last shape ?_
              simp only [Listener.socket, handle]
              exact network.handle_ne_opened

/-! ## What binding writes -/

/-- An attempt to bind an address writes events only. -/
theorem events_bind
    (wish : SocketSettings)
    (address : String)
    (network : Network) :
    ∀ entry ∈ (bind wish address network).journal,
      entry.event?.isSome = true := by
  have reported (cause : Failure) (after : Network) :
      ∀ entry ∈ (unableToBind address cause after).journal,
        entry.event?.isSome = true := by
    intro entry member
    rw [List.mem_singleton.mp member]
    rfl
  unfold bind
  split
  · exact reported _ _
  · split
    · exact reported _ _
    · simp

/-- Binding a listener records events only. -/
theorem events_bindListener
    (settings : Settings)
    (network : Network)
    (protocol : Protocol) :
    ∀ entry ∈ (bindListener settings network protocol).journal,
      entry.event?.isSome = true := by
  have bound :=
    events_bind (.ofSettings settings) (settings.listenAddress protocol)
      network
  unfold bindListener
  dsimp only
  split
  · exact bound
  · split <;> exact bound

/-- Binding the protocols records events only. -/
theorem events_bindAll
    (settings : Settings)
    (hasContext : Bool)
    (network : Network)
    (protocols : List Protocol) :
    ∀ entry ∈ (bindAll settings hasContext network protocols).journal,
      entry.event?.isSome = true := by
  induction protocols generalizing network with
  | nil =>
      exact fun _ member => absurd member List.not_mem_nil
  | cons protocol rest inductionHypothesis =>
      have first := events_bindListener settings network protocol
      have others :=
        inductionHypothesis (bindListener settings network protocol).network
      have both :
          ∀ entry ∈ (bindListener settings network protocol).journal ++
              (bindAll settings hasContext
                (bindListener settings network protocol).network
                rest).journal,
            entry.event?.isSome = true :=
        fun entry member =>
          (List.mem_append.mp member).elim (first entry) (others entry)
      rw [bindAll_cons]
      split
      · simp
      · dsimp only
        split
        · exact first
        · split <;> exact both

/-- Setting the stage of listeners changes their sockets only. -/
theorem sockets_setStages
    (stage : SocketStage)
    (listeners : List Listener)
    (network : Network) :
    (setStages stage listeners network).sockets =
      network.sockets.map fun socket =>
        if socket.handle ∈ listeners.map Listener.handle then
          { socket with stage }
        else socket := by
  induction listeners generalizing network with
  | nil =>
      simp [setStages]
  | cons listener rest inductionHypothesis =>
      have later := inductionHypothesis (network.setStage stage listener.handle)
      simp only [setStages, List.foldl_cons] at later ⊢
      rw [later]
      simp only [Network.setStage, Network.update, List.map_map]
      apply List.map_congr_left
      intro socket _
      by_cases same : socket.handle = listener.handle
      · simp [same]
      · simp [same]

/--
Opened listeners serve: one socket for each enabled protocol, in order, behind
the sockets that were open before.
-/
theorem sockets_of_openListeners_ok
    {settings : Settings}
    {hasContext : Bool}
    {network : Network}
    {listeners : List Listener}
    (opened :
      (openListeners settings hasContext network).outcome =
        .ok listeners) :
    (openListeners settings hasContext network).network.sockets =
        network.sockets ++
          listeners.map (fun listener => listener.socket .serving) ∧
      listeners.map Listener.protocol = settings.enabledProtocols ∧
      (listeners.map Listener.handle).Nodup := by
  unfold openListeners at opened ⊢
  cases bound :
      (bindAll settings hasContext network
        settings.enabledProtocols).outcome with
  | error failure =>
      simp [bound] at opened
  | ok found =>
      simp only [bound, Except.ok.injEq] at opened ⊢
      subst opened
      obtain ⟨sockets, protocols, handles, distinct⟩ :=
        sockets_of_bindAll_ok bound
      refine ⟨?_, protocols, distinct⟩
      rw [sockets_setStages, sockets, List.map_append, List.map_map]
      congr 1
      · refine (List.map_congr_left ?_).trans (List.map_id _)
        intro socket member
        have foreign : socket.handle ∉ found.map Listener.handle := by
          simp only [List.mem_map, not_exists, not_and]
          intro listener isListener sameHandle
          have above := handles listener isListener
          have below := network.handle_lt socket member
          omega
        simp [foreign]
      · apply List.map_congr_left
        intro listener member
        have own :
            (listener.socket .listening).handle ∈
              found.map Listener.handle :=
          List.mem_map_of_mem member
        simp only [Function.comp_apply, own, ↓reduceIte]
        rfl

/-- When a listener cannot be opened, the open sockets are those from before. -/
theorem sockets_of_openListeners_error
    {settings : Settings}
    {hasContext : Bool}
    {network : Network}
    {failure : HostError}
    (opened :
      (openListeners settings hasContext network).outcome =
        .error failure) :
    (openListeners settings hasContext network).network.sockets =
      network.sockets := by
  unfold openListeners at opened ⊢
  cases bound :
      (bindAll settings hasContext network
        settings.enabledProtocols).outcome with
  | error found =>
      simpa only [bound] using sockets_of_bindAll_error bound
  | ok listeners =>
      simp [bound] at opened

end PluggableHost.Net
