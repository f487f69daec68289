import PluggableHost.Proofs.Net.Opening

namespace PluggableHost.Net

open PluggableHost.Config PluggableHost.Observability PluggableHost.Os

/-!
# Handles are not used twice

A network only ever gives out new handles.  A socket that was closed stays closed,
whatever is opened later, and whatever fails on the way.
-/

namespace Network

/-- Handles are given out in order, and what was closed is not opened again. -/
structure Grows (before after : Network) : Prop where
  opened : before.opened ≤ after.opened
  closed :
    ∀ handle < before.opened,
      after.isOpen handle = true →
      before.isOpen handle = true

/-- A handle is open while some socket has it. -/
theorem isOpen_iff
    {network : Network}
    {handle : Nat} :
    network.isOpen handle = true ↔
      ∃ socket ∈ network.sockets, socket.handle = handle := by
  simp [isOpen]

/-- A network that stays as it is grows by nothing. -/
theorem Grows.refl
    (network : Network) :
    network.Grows network where
  opened := Nat.le_refl _
  closed := fun _ _ isOpen => isOpen

/-- Growing goes on. -/
theorem Grows.trans
    {first second third : Network}
    (early : first.Grows second)
    (late : second.Grows third) :
    first.Grows third where
  opened := Nat.le_trans early.opened late.opened
  closed := by
    intro handle known isOpen
    have below : handle < second.opened :=
      Nat.lt_of_lt_of_le known early.opened
    exact early.closed handle known (late.closed handle below isOpen)

/-- A closed socket stays closed. -/
theorem Grows.isOpen_eq_false
    {before after : Network}
    (grows : before.Grows after)
    {handle : Nat}
    (known : handle < before.opened)
    (finished : before.isOpen handle = false) :
    after.isOpen handle = false := by
  rw [Bool.eq_false_iff]
  intro isOpen
  rw [grows.closed handle known isOpen] at finished
  cases finished

/-- Opening a socket gives it the next handle. -/
theorem grows_add
    (network : Network)
    (address : SocketAddress) :
    network.Grows (network.add address).2 where
  opened := Nat.le_succ _
  closed := by
    intro handle known isOpen
    obtain ⟨socket, member, same⟩ := isOpen_iff.mp isOpen
    rcases List.mem_append.mp member with earlier | last
    · exact isOpen_iff.mpr ⟨socket, earlier, same⟩
    · rw [List.mem_singleton.mp last] at same
      exact absurd same (Nat.ne_of_gt known)

/-- Closing a socket opens none. -/
theorem grows_close
    (network : Network)
    (handle : Nat) :
    network.Grows (network.close handle) where
  opened := Nat.le_refl _
  closed := by
    intro other _ isOpen
    obtain ⟨socket, member, same⟩ := isOpen_iff.mp isOpen
    exact isOpen_iff.mpr
      ⟨socket, (List.mem_filter.mp member).1, same⟩

/-- Changing a socket opens none. -/
theorem grows_update
    (network : Network)
    (handle : Nat)
    (change : Socket → Socket) :
    network.Grows (network.update handle change) where
  opened := Nat.le_refl _
  closed := by
    intro other _ isOpen
    obtain ⟨socket, member, same⟩ := isOpen_iff.mp isOpen
    obtain ⟨old, present, changed⟩ := List.mem_map.mp member
    refine isOpen_iff.mpr ⟨old, present, ?_⟩
    rw [← same, ← changed]
    split
    · next own =>
      exact own
    · rfl

/-- Carrying out the operations on a socket opens nothing that was closed. -/
theorem grows_carryOut
    (settings : SocketSettings)
    (socket : Socket)
    (network : Network)
    (operations : List SocketOperation) :
    network.Grows (network.carryOut settings socket operations).2 := by
  induction operations generalizing socket network with
  | nil =>
      exact .refl network
  | cons operation rest inductionHypothesis =>
      unfold carryOut
      split
      · exact network.grows_close _
      · exact (network.grows_update _ _).trans (inductionHypothesis _ _)

/-- Listening on an address opens nothing that was closed. -/
theorem grows_listenOn
    (network : Network)
    (settings : SocketSettings)
    (wanted : SocketAddress) :
    network.Grows (network.listenOn settings wanted).2 := by
  unfold listenOn
  split
  · exact .refl network
  · exact (network.grows_add wanted).trans
      (grows_carryOut settings _ _ preparation)

end Network

open Network

/-- Binding an address opens nothing that was closed. -/
theorem grows_bind
    (wish : SocketSettings)
    (address : String)
    (network : Network) :
    network.Grows (bind wish address network).network := by
  unfold bind
  split
  · exact .refl network
  · next wanted _ =>
    have grown := network.grows_listenOn wish wanted
    split <;>
      next listened =>
        rw [listened] at grown
        exact grown

/-- Binding a listener opens nothing that was closed. -/
theorem grows_bindListener
    (settings : Settings)
    (network : Network)
    (protocol : Protocol) :
    network.Grows (bindListener settings network protocol).network := by
  have grown :=
    grows_bind (.ofSettings settings) (settings.listenAddress protocol)
      network
  unfold bindListener
  dsimp only
  split
  · exact grown
  · split
    · exact grown.trans (grows_close _ _)
    · exact grown

/-- Binding the protocols opens nothing that was closed. -/
theorem grows_bindAll
    (settings : Settings)
    (hasContext : Bool)
    (network : Network)
    (protocols : List Protocol) :
    network.Grows
      (bindAll settings hasContext network protocols).network := by
  induction protocols generalizing network with
  | nil =>
      exact .refl network
  | cons protocol rest inductionHypothesis =>
      have first := grows_bindListener settings network protocol
      have others :=
        inductionHypothesis (bindListener settings network protocol).network
      rw [bindAll_cons]
      split
      · exact .refl network
      · dsimp only
        split
        · exact first
        · split
          · exact (first.trans others).trans (grows_close _ _)
          · exact first.trans others

/-- Setting the stages of sockets opens none. -/
theorem grows_setStages
    (stage : SocketStage)
    (listeners : List Listener)
    (network : Network) :
    network.Grows (setStages stage listeners network) := by
  induction listeners generalizing network with
  | nil =>
      exact .refl network
  | cons listener rest inductionHypothesis =>
      exact (network.grows_update _ _).trans (inductionHypothesis _)

/-- Opening the listeners opens nothing that was closed. -/
theorem grows_openListeners
    (settings : Settings)
    (hasContext : Bool)
    (network : Network) :
    network.Grows (openListeners settings hasContext network).network := by
  have grown :=
    grows_bindAll settings hasContext network settings.enabledProtocols
  unfold openListeners
  dsimp only
  split
  · exact grown
  · exact grown.trans (grows_setStages .serving _ _)

end PluggableHost.Net
