import PluggableHost.Proofs.Http.Permits

namespace PluggableHost.Http

open PluggableHost.Plugin

/-!
# Everybody can be served

Where there is a permit at all, nobody can get stuck: whatever has happened so far, the
requests can go on, without anybody else's help, until each of them is answered that
has not gone away.  A request with a permit can always go on to its answer, since its
work is finite, and then there is a permit for the next one.
-/

variable {σ α : Type}

/-- The guest is neither answered nor gone. -/
def Guest.isPending : Guest σ α → Bool
  | outside _ | waiting _ | admitted _ | asleep _ _ => true
  | answered _ | refused | gone => false

/-- A request acts, or time passes. -/
def Move.isPatient : Move σ α → Bool
  | ask _ | act _ | wait _ => true
  | join _ | leave _ | elsewhere _ => false

namespace Limiter

/-- A limiter after several moves. -/
def run
    (limiter : Limiter σ α)
    (moves : List (Move σ α)) : Limiter σ α :=
  moves.foldl after limiter

/-- How many guests have not come to their end. -/
def pending (limiter : Limiter σ α) : Nat :=
  limiter.guests.countP Guest.isPending

end Limiter

/-- What happens to a limiter does not depend on what is written down. -/
theorem limiter_run
    (reception : Reception σ α)
    (moves : List (Move σ α)) :
    (reception.run moves).limiter = reception.limiter.run moves := by
  induction moves generalizing reception with
  | nil => rfl
  | cons move moves inductionHypothesis =>
      exact inductionHypothesis (reception.after move)

variable
  {permits number : Nat}
  {limiter : Limiter σ α}
  {reception : Reception σ α}
  {guest : Guest σ α}

/-! ## The way to an answer -/

/-- Who gets a permit is still to be answered. -/
theorem pending_release (limiter : Limiter σ α) :
    limiter.release.pending = limiter.pending := by
  unfold Limiter.release Limiter.pending
  split
  · rfl
  · rename_i first others _
    by_cases inside : first < limiter.guests.length
    · obtain ⟨earlier, guest, later, shape, -, changed⟩ :=
        List.exists_of_modify Guest.letIn inside
      have kind : guest.letIn.isPending = guest.isPending := by
        cases guest <;> rfl
      dsimp only
      rw [changed, shape]
      simp only [List.countP_append, List.countP_cons, kind]
    · rw [List.modify_eq_self (by omega)]

/-- Putting a guest in the place of a pending one counts as what the new one is. -/
theorem pending_place
    (found : limiter.guests[number]? = some guest)
    (pending : guest.isPending = true)
    (new : Guest σ α) :
    (limiter.place number new).pending + 1 =
      limiter.pending + new.isPending.toNat := by
  have counted := countP_place found new Guest.isPending
  rwa [pending] at counted

/-- A guest that was put in a place is found there. -/
theorem getElem?_place
    (found : limiter.guests[number]? = some guest)
    (new : Guest σ α) :
    (limiter.place number new).guests[number]? = some new :=
  List.getElem?_set_self (List.getElem?_eq_some_iff.mp found).1

/-- A request with a permit can go on until it is answered. -/
theorem exists_answered
    (work : Activity σ α)
    (found : limiter.guests[number]? = some guest)
    (pending : guest.isPending = true) :
    ∃ moves,
      (∀ move ∈ moves, Move.isPatient move = true) ∧
        ((limiter.advance number work).run moves).pending + 1 =
          limiter.pending := by
  induction work generalizing limiter guest with
  | done value =>
      refine ⟨[], by simp, ?_⟩
      exact
        (congrArg (· + 1) (pending_release _)).trans
          (pending_place found pending (.answered value))
  | act effect next inductionHypothesis =>
      have changed :
          ({ limiter with shared := effect limiter.shared } :
            Limiter σ α).guests[number]? = some guest :=
        found
      exact inductionHypothesis (effect limiter.shared) changed pending
  | pause next inductionHypothesis =>
      have there := getElem?_place found (.admitted next)
      obtain ⟨moves, patient, served⟩ := inductionHypothesis there rfl
      have still := pending_place found pending (.admitted next)
      have going :
          (limiter.place number (.admitted next)).act number =
            (limiter.place number (.admitted next)).advance number next := by
        rw [Limiter.act, Limiter.working?, there]
      refine ⟨.act number :: moves, by simpa [Move.isPatient] using patient, ?_⟩
      have first :
          (limiter.advance number (.pause next)).run (.act number :: moves) =
            ((limiter.place number (.admitted next)).act number).run moves :=
        rfl
      rw [first, going, served]
      simpa [Guest.isPending] using still
  | sleep milliseconds next inductionHypothesis =>
      let woken : Limiter σ α :=
        { limiter.place number
            (.asleep (limiter.clock + milliseconds) next) with
          clock := limiter.clock + milliseconds }
      have there :
          woken.guests[number]? =
            some (.asleep (limiter.clock + milliseconds) next) :=
        getElem?_place found _
      obtain ⟨moves, patient, served⟩ := inductionHypothesis there rfl
      have still :=
        pending_place found pending
          (.asleep (limiter.clock + milliseconds) next)
      have going : woken.act number = woken.advance number next := by
        rw [Limiter.act, Limiter.working?, there]
        simp [woken]
      refine ⟨.wait milliseconds :: .act number :: moves,
        by simpa [Move.isPatient] using patient, ?_⟩
      have first :
          (limiter.advance number (.sleep milliseconds next)).run
              (.wait milliseconds :: .act number :: moves) =
            (woken.act number).run moves :=
        rfl
      rw [first, going, served]
      simpa [Guest.isPending] using (show woken.pending + 1 = _ from still)

/-! ## Nobody goes away by that -/

/-- Who is gone after a change elsewhere was gone before. -/
theorem gone_of_set
    {guests : List (Guest σ α)}
    {other : Nat}
    {new : Guest σ α}
    (gone : (guests.set number new)[other]? = some .gone)
    (there : new ≠ .gone) :
    guests[other]? = some .gone := by
  rw [List.getElem?_set] at gone
  split at gone
  · split at gone
    · exact absurd (Option.some.inj gone) there
    · cases gone
  · exact gone

/-- Who is gone after a permit was freed was gone before. -/
theorem gone_of_release
    {other : Nat}
    (gone : limiter.release.guests[other]? = some .gone) :
    limiter.guests[other]? = some .gone := by
  unfold Limiter.release at gone
  split at gone
  · exact gone
  · rename_i first others _
    rw [List.getElem?_modify] at gone
    cases found : limiter.guests[other]? with
    | none =>
        rw [found] at gone
        cases gone
    | some guest =>
        rw [found] at gone
        cases guest <;>
          simp only [Option.map_eq_map, Option.map_some,
            Option.some.injEq] at gone ⊢ <;>
          split at gone <;>
          cases gone

/-- Patient moves make nobody go away. -/
theorem gone_of_after
    {move : Move σ α}
    (patient : move.isPatient = true)
    (gone : (limiter.after move).guests[number]? = some .gone) :
    limiter.guests[number]? = some .gone := by
  cases move with
  | join work | leave guest | elsewhere shared => cases patient
  | wait milliseconds => exact gone
  | ask guest =>
      simp only [Limiter.after, Limiter.ask] at gone
      split at gone
      · unfold Limiter.arrive at gone
        split at gone
        · exact gone_of_set gone (by simp)
        · split at gone <;>
            exact gone_of_set gone (by simp)
      · exact gone
  | act guest =>
      simp only [Limiter.after, Limiter.act] at gone
      split at gone
      · simp only [Limiter.advance] at gone
        split at gone
        · exact gone_of_set (gone_of_release gone) (by simp)
        · exact gone_of_set gone (by simp)
        · exact gone_of_set gone (by simp)
        · exact gone_of_set gone (by simp)
      · exact gone

/-- Where nobody leaves, who is gone was gone before. -/
theorem gone_of_run
    {moves : List (Move σ α)}
    (patient : ∀ move ∈ moves, move.isPatient = true)
    (gone : (limiter.run moves).guests[number]? = some .gone) :
    limiter.guests[number]? = some .gone := by
  induction moves generalizing limiter with
  | nil => exact gone
  | cons move moves inductionHypothesis =>
      obtain ⟨first, others⟩ := List.forall_mem_cons.mp patient
      exact gone_of_after first (inductionHypothesis others gone)

/-! ## Everybody in turn -/

/-- Moves that follow each other are made one list after the other. -/
theorem run_append
    (limiter : Limiter σ α)
    (early late : List (Move σ α)) :
    limiter.run (early ++ late) = (limiter.run early).run late :=
  List.foldl_append

/-- A request with a permit goes on as soon as it is awake. -/
theorem exists_awake
    (found : limiter.guests[number]? = some guest)
    (holds : guest.holdsPermit = true) :
    ∃ (milliseconds : Nat) (work : Activity σ α),
      let later := limiter.after (.wait milliseconds)
      later.act number = later.advance number work := by
  cases guest with
  | admitted work =>
      refine ⟨0, work, ?_⟩
      simp only [Limiter.after, Limiter.act, Limiter.working?, found]
  | asleep wake work =>
      refine ⟨wake, work, ?_⟩
      simp [Limiter.after, Limiter.act, Limiter.working?, found]
  | outside work | waiting work | answered value | refused | gone =>
      cases holds

/-- A request with a permit can be answered next. -/
theorem exists_answered_of_holds
    (found : limiter.guests[number]? = some guest)
    (holds : guest.holdsPermit = true) :
    ∃ moves,
      (∀ move ∈ moves, Move.isPatient move = true) ∧
        (limiter.run moves).pending + 1 = limiter.pending := by
  have pending : guest.isPending = true := by
    cases guest <;> first | rfl | cases holds
  obtain ⟨milliseconds, work, going⟩ := exists_awake found holds
  have there :
      (limiter.after (.wait milliseconds)).guests[number]? = some guest :=
    found
  obtain ⟨moves, patient, served⟩ := exists_answered work there pending
  refine ⟨.wait milliseconds :: .act number :: moves,
    by simpa [Move.isPatient] using patient, ?_⟩
  rw [← going] at served
  exact served

/-- Where nobody has a permit, somebody who is still to be answered can get one. -/
theorem Sound.exists_admitted
    (sound : Sound permits 0 reception)
    (positive : 0 < permits)
    (idle : reception.limiter.held = 0)
    (pending : 0 < reception.limiter.pending) :
    ∃ number work,
      (reception.limiter.ask number).guests[number]? =
          some (.admitted work) ∧
        (reception.limiter.ask number).pending =
          reception.limiter.pending := by
  obtain ⟨guest, member, waits⟩ := List.countP_pos_iff.mp pending
  obtain ⟨number, found⟩ := List.mem_iff_getElem?.mp member
  have counted := sound.counted
  obtain ⟨free, many⟩ : ∃ free, reception.limiter.free = free + 1 :=
    Nat.exists_eq_succ_of_ne_zero (by omega)
  have empty : reception.limiter.queue = [] := by
    by_contra queue
    exact absurd (sound.waits queue) (by omega)
  have without : guest.holdsPermit = false := by
    have none := List.countP_eq_zero.mp idle guest member
    simpa using none
  cases guest with
  | outside work =>
      have asked :
          reception.limiter.ask number =
            { reception.limiter.place number (.admitted work) with free } := by
        simp [Limiter.ask, found, Limiter.arrive, sound.unclosed, many]
      have still := pending_place found rfl (.admitted work)
      refine ⟨number, work, ?_⟩
      rw [asked]
      exact ⟨getElem?_place found _, Nat.succ.inj still⟩
  | waiting work =>
      have queued := (sound.queued number).mpr ⟨work, found⟩
      rw [empty] at queued
      exact absurd queued List.not_mem_nil
  | admitted work | asleep wake work => cases without
  | answered value | refused | gone => cases waits

/-- While somebody is still to be answered, somebody can be answered next. -/
theorem Sound.exists_answered
    (sound : Sound permits 0 reception)
    (positive : 0 < permits)
    (pending : 0 < reception.limiter.pending) :
    ∃ moves,
      (∀ move ∈ moves, Move.isPatient move = true) ∧
        (reception.limiter.run moves).pending + 1 =
          reception.limiter.pending := by
  by_cases idle : reception.limiter.held = 0
  · obtain ⟨number, work, admitted, still⟩ :=
      sound.exists_admitted positive idle pending
    obtain ⟨moves, patient, served⟩ :=
      exists_answered_of_holds admitted rfl
    refine ⟨.ask number :: moves,
      by simpa [Move.isPatient] using patient, ?_⟩
    rw [← still]
    exact served
  · obtain ⟨guest, member, holds⟩ :=
      List.countP_pos_iff.mp (Nat.pos_of_ne_zero idle)
    obtain ⟨number, found⟩ := List.mem_iff_getElem?.mp member
    exact exists_answered_of_holds found holds

/-- Everybody can be answered who has not gone away. -/
theorem Sound.exists_served
    (sound : Sound permits 0 reception)
    (positive : 0 < permits) :
    ∃ moves,
      (∀ move ∈ moves, Move.isPatient move = true) ∧
        ∀ (number : Nat) (guest : Guest σ α),
          (reception.run moves).limiter.guests[number]? = some guest →
          guest.answer?.isSome = true ∨
            reception.limiter.guests[number]? = some .gone := by
  obtain ⟨moves, patient, served⟩ :
      ∃ moves,
        (∀ move ∈ moves, Move.isPatient move = true) ∧
          (reception.limiter.run moves).pending = 0 := by
    induction left : reception.limiter.pending generalizing reception with
    | zero => exact ⟨[], by simp, left⟩
    | succ count inductionHypothesis =>
        obtain ⟨early, patient, served⟩ :=
          sound.exists_answered positive (by omega)
        obtain ⟨late, others, done⟩ :=
          inductionHypothesis (sound.run early)
            (by rw [limiter_run]; omega)
        refine ⟨early ++ late, ?_, ?_⟩
        · intro move member
          exact (List.mem_append.mp member).elim (patient move) (others move)
        · rw [run_append, ← limiter_run]
          exact done
  refine ⟨moves, patient, fun number guest there => ?_⟩
  have settled : guest.isPending = false := by
    rw [limiter_run] at there
    simpa using List.countP_eq_zero.mp served guest
      (List.mem_of_getElem? there)
  obtain ⟨work, -, stands⟩ := (sound.run moves).stands number guest there
  cases guest with
  | answered value => exact .inl rfl
  | gone =>
      rw [limiter_run] at there
      exact .inr (gone_of_run patient there)
  | refused => exact absurd stands id
  | outside work | waiting work | admitted work | asleep wake work =>
      cases settled

end PluggableHost.Http
