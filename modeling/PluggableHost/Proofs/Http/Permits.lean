import Mathlib.Data.List.Nodup
import PluggableHost.Proofs.Http.Reception

namespace PluggableHost.Http

open PluggableHost.Plugin Activity

/-!
# Permits and the queue for them

Every permit is free, or in the hands of one request, or just about to be given back.
Nobody waits while a permit is free.  Those who have asked and have not given up are
those who have got a permit and then those who wait, in one order.  Every request is
somewhere in the course of its own work.  Each move keeps this so.
-/

variable {σ α : Type}

/-- Where a guest stands, and what it has done of its work so far. -/
def Stands
    (log : List (Happening σ α))
    (number : Nat)
    (work : Activity σ α) : Guest σ α → Prop
  | .outside rest =>
      rest = work ∧ number ∉ askers log ∧ deedsOf number log = []
  | .waiting rest => rest = work ∧ deedsOf number log = []
  | .admitted rest | .asleep _ rest =>
      number ∈ entrants log ∧ Course work (deedsOf number log) rest
  | .answered value =>
      number ∈ entrants log ∧ work.ComesTo (deedsOf number log) value
  | .refused => False
  | .gone =>
      (number ∈ entrants log ∨ deedsOf number log = []) ∧
        ∃ rest, Course work (deedsOf number log) rest

/-- The permits in the hands of a guest. -/
def Guest.permits (guest : Guest σ α) : Nat :=
  guest.holdsPermit.toNat

/-- The state of a reception in between moves, or with permits on the way back. -/
structure Sound
    (permits loose : Nat)
    (reception : Reception σ α) : Prop where
  unclosed : reception.limiter.closed = false
  counted :
    reception.limiter.free + reception.limiter.held + loose = permits
  waits : reception.limiter.queue ≠ [] → reception.limiter.free = 0
  queued :
    ∀ number,
      number ∈ reception.limiter.queue ↔
        ∃ work, reception.limiter.guests[number]? = some (.waiting work)
  known :
    (works reception.log).length = reception.limiter.guests.length
  /-- Who has not joined yet has done nothing. -/
  absent :
    ∀ number,
      reception.limiter.guests.length ≤ number →
      number ∉ askers reception.log ∧ deedsOf number reception.log = []
  stands :
    ∀ number guest,
      reception.limiter.guests[number]? = some guest →
      ∃ work,
        (works reception.log)[number]? = some work ∧
          Stands reception.log number work guest
  once : (askers reception.log).Nodup
  asked : ∀ number ∈ quitters reception.log, number ∈ askers reception.log
  inOrder :
    (askers reception.log).filter
        (fun number => number ∉ quitters reception.log) =
      entrants reception.log ++ reception.limiter.queue

/-! ## What is written down -/

@[simp] theorem works_nil :
    works ([] : List (Happening σ α)) = [] := rfl

@[simp] theorem works_cons
    (first : Happening σ α)
    (rest : List (Happening σ α)) :
    works (first :: rest) = first.work?.toList ++ works rest := by
  cases first <;> rfl

@[simp] theorem works_append (early late : List (Happening σ α)) :
    works (early ++ late) = works early ++ works late :=
  List.filterMap_append

@[simp] theorem askers_nil :
    askers ([] : List (Happening σ α)) = [] := rfl

@[simp] theorem askers_cons
    (first : Happening σ α)
    (rest : List (Happening σ α)) :
    askers (first :: rest) = first.asker?.toList ++ askers rest := by
  cases first <;> rfl

@[simp] theorem askers_append (early late : List (Happening σ α)) :
    askers (early ++ late) = askers early ++ askers late :=
  List.filterMap_append

@[simp] theorem entrants_nil :
    entrants ([] : List (Happening σ α)) = [] := rfl

@[simp] theorem entrants_cons
    (first : Happening σ α)
    (rest : List (Happening σ α)) :
    entrants (first :: rest) = first.entrant?.toList ++ entrants rest := by
  cases first <;> rfl

@[simp] theorem entrants_append (early late : List (Happening σ α)) :
    entrants (early ++ late) = entrants early ++ entrants late :=
  List.filterMap_append

@[simp] theorem quitters_nil :
    quitters ([] : List (Happening σ α)) = [] := rfl

@[simp] theorem quitters_cons
    (first : Happening σ α)
    (rest : List (Happening σ α)) :
    quitters (first :: rest) = first.quitter?.toList ++ quitters rest := by
  cases first <;> rfl

@[simp] theorem quitters_append (early late : List (Happening σ α)) :
    quitters (early ++ late) = quitters early ++ quitters late :=
  List.filterMap_append

@[simp] theorem deedsOf_nil (number : Nat) :
    deedsOf number ([] : List (Happening σ α)) = [] := rfl

@[simp] theorem deedsOf_cons
    (number : Nat)
    (first : Happening σ α)
    (rest : List (Happening σ α)) :
    deedsOf number (first :: rest) =
      first.deedsOf number ++ deedsOf number rest := rfl

@[simp] theorem deedsOf_append
    (number : Nat)
    (early late : List (Happening σ α)) :
    deedsOf number (early ++ late) =
      deedsOf number early ++ deedsOf number late :=
  List.flatMap_append

/-- Nobody joins but by joining. -/
theorem works_noted
    (limiter : Limiter σ α)
    {move : Move σ α}
    (other : ∀ work, move ≠ .join work) :
    works (limiter.noted move) = [] := by
  have handedOn : works limiter.successor = [] := by
    cases queue : limiter.queue <;>
      simp [Limiter.successor, queue]
  cases move with
  | join work => exact absurd rfl (other work)
  | wait milliseconds | elsewhere shared => rfl
  | ask guest =>
      simp only [Limiter.noted]
      split
      · split <;> rfl
      · rfl
  | act guest =>
      simp only [Limiter.noted]
      split
      · rfl
      · split
        · exact handedOn
        · rfl
  | leave guest =>
      simp only [Limiter.noted]
      split
      · rfl
      · exact handedOn
      · exact handedOn
      · rfl

variable
  {permits loose number : Nat}
  {reception : Reception σ α}
  {log extra : List (Happening σ α)}
  {work : Activity σ α}
  {guest old new : Guest σ α}

/-- A guest stands where it stood when others do something. -/
theorem Stands.append
    (stands : Stands log number work guest)
    (unasked : number ∉ askers extra)
    (idle : deedsOf number extra = []) :
    Stands (log ++ extra) number work guest := by
  cases guest with
  | outside rest =>
      obtain ⟨same, absent, nothing⟩ := stands
      exact ⟨same, by simp [absent, unasked], by simp [nothing, idle]⟩
  | waiting rest =>
      obtain ⟨same, nothing⟩ := stands
      exact ⟨same, by simp [nothing, idle]⟩
  | admitted rest | asleep wake rest =>
      obtain ⟨inside, course⟩ := stands
      exact ⟨by simp [inside], by simpa [idle] using course⟩
  | answered value =>
      obtain ⟨inside, course⟩ := stands
      exact ⟨by simp [inside], by simpa [idle] using course⟩
  | refused => exact stands
  | gone =>
      obtain ⟨inside | nothing, rest, course⟩ := stands
      · exact ⟨.inl (by simp [inside]), rest, by simpa [idle] using course⟩
      · exact ⟨.inr (by simp [nothing, idle]), rest,
          by simpa [idle] using course⟩

/-- What a guest has done is in the course of its work. -/
theorem Stands.course
    (stands : Stands log number work guest) :
    ∃ rest, Course work (deedsOf number log) rest := by
  cases guest with
  | outside rest =>
      obtain ⟨rfl, -, nothing⟩ := stands
      exact ⟨rest, nothing ▸ .stay rest⟩
  | waiting rest =>
      obtain ⟨rfl, nothing⟩ := stands
      exact ⟨rest, nothing ▸ .stay rest⟩
  | admitted rest | asleep wake rest => exact ⟨rest, stands.2⟩
  | answered value => exact ⟨_, stands.2⟩
  | refused => exact absurd stands id
  | gone => exact stands.2

/-- Who has a permit, or has done anything, has entered. -/
theorem Stands.entered
    (stands : Stands log number work guest)
    (active : guest.holdsPermit = true ∨ deedsOf number log ≠ []) :
    number ∈ entrants log := by
  cases guest with
  | outside rest =>
      exact absurd stands.2.2 (active.resolve_left nofun)
  | waiting rest =>
      exact absurd stands.2 (active.resolve_left nofun)
  | admitted rest | asleep wake rest | answered value => exact stands.1
  | refused => exact absurd stands id
  | gone => exact stands.1.resolve_right (active.resolve_left nofun)

/-! ## One guest changes its standing -/

/-- How many guests are of a kind, when one of them changes. -/
theorem countP_place
    {limiter : Limiter σ α}
    (found : limiter.guests[number]? = some old)
    (new : Guest σ α)
    (kind : Guest σ α → Bool) :
    (limiter.place number new).guests.countP kind + (kind old).toNat =
      limiter.guests.countP kind + (kind new).toNat := by
  obtain ⟨inside, same⟩ := List.getElem?_eq_some_iff.mp found
  obtain ⟨earlier, later, shape, -, changed⟩ :
      ∃ earlier later,
        limiter.guests = earlier ++ limiter.guests[number] :: later ∧
        earlier.length = number ∧
        limiter.guests.set number new = earlier ++ new :: later :=
    List.exists_of_set inside
  rw [same] at shape
  rw [Limiter.place, changed, shape]
  simp only [List.countP_append, List.countP_cons]
  cases kind old <;> cases kind new <;>
    simp only [Bool.toNat_true, Bool.toNat_false, if_true, Bool.false_eq_true, if_false] <;>
    omega

/-- Putting a guest in the place of another changes the permits by what the two have. -/
theorem held_place
    {limiter : Limiter σ α}
    (found : limiter.guests[number]? = some old)
    (new : Guest σ α) :
    (limiter.place number new).held + old.permits =
      limiter.held + new.permits :=
  countP_place found new Guest.holdsPermit

/-- The others stand where they stood. -/
theorem Sound.stands_set
    (sound : Sound permits loose reception)
    (found : reception.limiter.guests[number]? = some old)
    (newcomers : works extra = [])
    (others :
      ∀ other,
        other ≠ number → other ∉ askers extra ∧ deedsOf other extra = [])
    (own :
      ∀ work,
        Stands reception.log number work old →
        Stands (reception.log ++ extra) number work new) :
    ∀ other guest,
      (reception.limiter.guests.set number new)[other]? = some guest →
      ∃ work,
        (works (reception.log ++ extra))[other]? = some work ∧
          Stands (reception.log ++ extra) other work guest := by
  intro other guest there
  rw [works_append, newcomers, List.append_nil]
  by_cases same : other = number
  · subst same
    have inside := (List.getElem?_eq_some_iff.mp found).1
    rw [List.getElem?_set_self inside, Option.some.injEq] at there
    subst there
    obtain ⟨work, joined, stands⟩ := sound.stands _ _ found
    exact ⟨work, joined, own work stands⟩
  · rw [List.getElem?_set_ne (Ne.symm same)] at there
    obtain ⟨work, joined, stands⟩ := sound.stands _ _ there
    exact ⟨work, joined,
      stands.append (others other same).1 (others other same).2⟩

/-- A guest that neither waited nor waits now leaves the queue as it is. -/
theorem Sound.queued_set
    (sound : Sound permits loose reception)
    (found : reception.limiter.guests[number]? = some old)
    (before : ∀ work, old ≠ .waiting work)
    (behind : ∀ work, new ≠ .waiting work)
    (other : Nat) :
    other ∈ reception.limiter.queue ↔
      ∃ work,
        (reception.limiter.guests.set number new)[other]? =
          some (.waiting work) := by
  rw [sound.queued other]
  by_cases same : other = number
  · subst same
    have inside := (List.getElem?_eq_some_iff.mp found).1
    simp [found, List.getElem?_set_self inside, before, behind]
  · rw [List.getElem?_set_ne (Ne.symm same)]

/-- Who has not joined yet is not the guest that changes, and has done nothing. -/
theorem Sound.absent_set
    (sound : Sound permits loose reception)
    (found : reception.limiter.guests[number]? = some old)
    {other : Nat}
    (beyond : (reception.limiter.guests.set number new).length ≤ other) :
    other ≠ number ∧
      other ∉ askers reception.log ∧ deedsOf other reception.log = [] := by
  have inside := (List.getElem?_eq_some_iff.mp found).1
  rw [List.length_set] at beyond
  exact ⟨by omega, sound.absent other beyond⟩

/-- Who is in the queue has not entered. -/
theorem Sound.nodup
    (sound : Sound permits loose reception) :
    (entrants reception.log ++ reception.limiter.queue).Nodup :=
  sound.inOrder ▸ sound.once.filter _

/-- A guest goes on, or ends, and nobody else is concerned. -/
theorem Sound.place
    (sound : Sound permits loose reception)
    (found : reception.limiter.guests[number]? = some old)
    (new : Guest σ α)
    (before : ∀ work, old ≠ .waiting work)
    (behind : ∀ work, new ≠ .waiting work)
    {left : Nat}
    (count : left + new.permits = loose + old.permits)
    (shared : σ)
    {extra : List (Happening σ α)}
    (written : extra = [] ∨ ∃ deeds, extra = [.acted number deeds])
    (own :
      ∀ work,
        Stands reception.log number work old →
        Stands (reception.log ++ extra) number work new) :
    Sound permits left
      ⟨{ reception.limiter.place number new with shared },
        reception.log ++ extra⟩ := by
  obtain ⟨noWorks, noAskers, noEntrants, noQuitters, idle⟩ :
      works extra = [] ∧ askers extra = [] ∧ entrants extra = [] ∧
        quitters extra = [] ∧
        ∀ other, other ≠ number → deedsOf other extra = [] := by
    rcases written with rfl | ⟨deeds, rfl⟩
    · exact ⟨rfl, rfl, rfl, rfl, fun _ _ => rfl⟩
    · refine ⟨rfl, rfl, rfl, rfl, fun other apart => ?_⟩
      simp [Ne.symm apart]
  constructor
  case unclosed => exact sound.unclosed
  case counted =>
    have counted := sound.counted
    have held := held_place found new
    dsimp only [Limiter.held, Limiter.place] at counted held ⊢
    omega
  case waits => exact sound.waits
  case queued => exact sound.queued_set found before behind
  case known =>
    simpa [noWorks, Limiter.place] using sound.known
  case absent =>
    intro other beyond
    obtain ⟨apart, absent⟩ := sound.absent_set found beyond
    simpa [noAskers, idle other apart] using absent
  case stands =>
    exact sound.stands_set found noWorks
      (fun other apart => ⟨by simp [noAskers], idle other apart⟩) own
  case once => simpa [noAskers] using sound.once
  case asked => simpa [noAskers, noQuitters] using sound.asked
  case inOrder =>
    simpa [noAskers, noQuitters, noEntrants, Limiter.place]
      using sound.inOrder

/-- A permit that comes back while somebody waits goes to the head of the queue. -/
theorem Sound.handOver
    {limiter : Limiter σ α}
    (sound : Sound permits 1 ⟨limiter, log⟩)
    {first : Nat}
    {others : List Nat}
    (queue : limiter.queue = first :: others) :
    Sound permits 0
      ⟨limiter.release, log ++ limiter.successor⟩ := by
  have counted := sound.counted
  have inOrder := sound.inOrder
  have nodup := sound.nodup
  dsimp only at counted inOrder nodup
  rw [queue] at inOrder nodup
  obtain ⟨work, waiting⟩ :=
    (sound.queued first).mp (queue ▸ List.mem_cons_self)
  dsimp only at waiting
  have entered :
      limiter.guests.modify first Guest.letIn =
        limiter.guests.set first (.admitted work) := by
    rw [List.modify_eq_set_getElem?, waiting]
    rfl
  have passed :
      limiter.release =
        { limiter.place first (.admitted work) with queue := others } := by
    rw [Limiter.release, queue]
    simp only [entered]
    rfl
  have written : limiter.successor = [.entered first] := by
    rw [Limiter.successor, queue]
    rfl
  have once : first ∉ others :=
    (List.nodup_cons.mp (List.nodup_append.mp nodup).2.1).1
  rw [passed, written]
  constructor
  case unclosed => exact sound.unclosed
  case counted =>
    have held := held_place waiting (.admitted work)
    simp only [Guest.permits, Guest.holdsPermit, Bool.toNat_false,
      Bool.toNat_true] at held
    dsimp only [Limiter.held, Limiter.place] at counted held ⊢
    omega
  case waits => exact fun _ => sound.waits (by simp [queue])
  case queued =>
    intro number
    have before := sound.queued number
    dsimp only at before
    rw [queue, List.mem_cons] at before
    dsimp only [Limiter.place]
    by_cases same : number = first
    · subst same
      have inside := (List.getElem?_eq_some_iff.mp waiting).1
      simp [once, List.getElem?_set_self inside]
    · rw [List.getElem?_set_ne (Ne.symm same), ← before]
      simp [same]
  case known => simpa [Limiter.place] using sound.known
  case absent => simpa [Limiter.place] using sound.absent
  case stands =>
    refine sound.stands_set waiting rfl
      (fun other apart => ⟨List.not_mem_nil, rfl⟩) ?_
    rintro own ⟨rfl, nothing⟩
    refine ⟨by simp, ?_⟩
    rw [deedsOf_append, nothing]
    exact .stay work
  case once => simpa using sound.once
  case asked => simpa using sound.asked
  case inOrder => simpa [Limiter.place] using inOrder

/-- A permit that comes back goes to the head of the queue, or is free. -/
theorem Sound.release
    (sound : Sound permits 1 reception) :
    Sound permits 0
      ⟨reception.limiter.release,
        reception.log ++ reception.limiter.successor⟩ := by
  obtain ⟨limiter, log⟩ := reception
  cases queue : limiter.queue with
  | nil =>
      have counted := sound.counted
      have back :
          limiter.release = { limiter with free := limiter.free + 1 } := by
        rw [Limiter.release, queue]
      have written : limiter.successor = [] := by
        rw [Limiter.successor, queue]
        rfl
      rw [back, written, List.append_nil]
      exact
        { sound with
          counted := by dsimp only [Limiter.held] at counted ⊢; omega
          waits := fun some => absurd queue some }
  | cons first others => exact sound.handOver queue

/-! ## The moves -/

/-- Who is there after somebody has joined. -/
theorem getElem?_join
    {limiter : Limiter σ α}
    (there : (limiter.join work).guests[number]? = some guest) :
    limiter.guests[number]? = some guest ∨
      number = limiter.guests.length ∧ guest = .outside work := by
  rw [Limiter.join, List.getElem?_append] at there
  split at there
  · exact .inl there
  · rw [List.getElem?_singleton] at there
    split at there
    · exact .inr ⟨by omega, (Option.some.inj there).symm⟩
    · cases there

/-- Joining keeps the permits in order. -/
theorem Sound.join
    (sound : Sound permits 0 reception)
    (work : Activity σ α) :
    Sound permits 0
      ⟨reception.limiter.join work, reception.log ++ [.joined work]⟩ := by
  have known := sound.known
  constructor
  case unclosed => exact sound.unclosed
  case counted =>
    simpa [Limiter.join, Limiter.held, Guest.holdsPermit]
      using sound.counted
  case waits => exact sound.waits
  case queued =>
    intro number
    refine (sound.queued number).trans ⟨?_, ?_⟩
    · rintro ⟨rest, waiting⟩
      have inside := (List.getElem?_eq_some_iff.mp waiting).1
      exact ⟨rest, (List.getElem?_append_left inside).trans waiting⟩
    · rintro ⟨rest, waiting⟩
      rcases getElem?_join waiting with old | ⟨-, new⟩
      · exact ⟨rest, old⟩
      · cases new
  case known => simpa [Limiter.join] using known
  case absent =>
    intro number beyond
    rw [Limiter.join, List.length_append] at beyond
    simpa using sound.absent number (by omega)
  case stands =>
    intro number guest there
    rcases getElem?_join there with old | ⟨rfl, rfl⟩
    · obtain ⟨own, joined, stands⟩ := sound.stands number guest old
      have inside := (List.getElem?_eq_some_iff.mp joined).1
      refine ⟨own, ?_, stands.append List.not_mem_nil rfl⟩
      rw [works_append]
      exact (List.getElem?_append_left inside).trans joined
    · obtain ⟨unasked, nothing⟩ := sound.absent _ (Nat.le_refl _)
      refine ⟨work, ?_, rfl, by simpa using unasked, by simpa using nothing⟩
      simp [← known]
  case once => simpa using sound.once
  case asked => simpa using sound.asked
  case inOrder => simpa [Limiter.join] using sound.inOrder

/-- Who asks now, for the first time, comes after all who have asked before. -/
theorem Sound.asking
    (sound : Sound permits loose reception)
    (unasked : number ∉ askers reception.log) :
    (askers reception.log ++ [number]).Nodup ∧
      (askers reception.log ++ [number]).filter
          (fun number => number ∉ quitters reception.log) =
        entrants reception.log ++ reception.limiter.queue ++ [number] := by
  have staying : number ∉ quitters reception.log :=
    fun quit => unasked (sound.asked number quit)
  constructor
  · refine List.nodup_append.mpr
      ⟨sound.once, List.nodup_singleton number, ?_⟩
    rintro other past _ here rfl
    exact unasked (List.mem_singleton.mp here ▸ past)
  · rw [List.filter_append, sound.inOrder]
    simp [staying]

/-- Where no permit is free, who asks waits behind all others. -/
theorem Sound.queueUp
    (sound : Sound permits 0 reception)
    (found : reception.limiter.guests[number]? = some (.outside work))
    (none : reception.limiter.free = 0) :
    Sound permits 0
      ⟨{ reception.limiter.place number (.waiting work) with
          queue := reception.limiter.queue ++ [number] },
        reception.log ++ [.asked number]⟩ := by
  have inside := (List.getElem?_eq_some_iff.mp found).1
  obtain ⟨own, -, -, unasked, -⟩ := sound.stands _ _ found
  obtain ⟨once, inOrder⟩ := sound.asking unasked
  constructor
  case unclosed => exact sound.unclosed
  case counted =>
    have counted := sound.counted
    have held := held_place found (.waiting work)
    dsimp only [Limiter.held, Limiter.place, Guest.permits,
      Guest.holdsPermit] at counted held ⊢
    omega
  case waits => exact fun _ => none
  case queued =>
    intro other
    rw [List.mem_append, List.mem_singleton, sound.queued other]
    dsimp only [Limiter.place]
    by_cases same : other = number
    · subst same
      simp [List.getElem?_set_self inside]
    · rw [List.getElem?_set_ne (Ne.symm same)]
      simp [same]
  case known => simpa [Limiter.place] using sound.known
  case absent =>
    intro other beyond
    obtain ⟨apart, absent⟩ := sound.absent_set found beyond
    simpa [apart] using absent
  case stands =>
    refine sound.stands_set found rfl
      (fun other apart => ⟨by simp [apart], rfl⟩) ?_
    rintro whole ⟨same, -, nothing⟩
    exact ⟨same, by simpa using nothing⟩
  case once => simpa using once
  case asked =>
    intro other quit
    have past := sound.asked other (by simpa using quit)
    simp [past]
  case inOrder =>
    simpa [List.append_assoc] using inOrder

/-- Who asks while a permit is free takes it, since nobody waits. -/
theorem Sound.admit
    (sound : Sound permits 0 reception)
    (found : reception.limiter.guests[number]? = some (.outside work))
    {free : Nat}
    (some : reception.limiter.free = free + 1) :
    Sound permits 0
      ⟨{ reception.limiter.place number (.admitted work) with free },
        reception.log ++ [.asked number, .entered number]⟩ := by
  obtain ⟨own, -, -, unasked, -⟩ := sound.stands _ _ found
  obtain ⟨once, inOrder⟩ := sound.asking unasked
  have empty : reception.limiter.queue = [] := by
    by_contra waiting
    exact absurd (sound.waits waiting) (by omega)
  constructor
  case unclosed => exact sound.unclosed
  case counted =>
    have counted := sound.counted
    have held := held_place found (.admitted work)
    simp only [Guest.permits, Guest.holdsPermit, Bool.toNat_false,
      Bool.toNat_true] at held
    dsimp only [Limiter.held, Limiter.place] at counted held ⊢
    omega
  case waits => exact fun waiting => absurd empty waiting
  case queued =>
    exact sound.queued_set found (fun _ => nofun) (fun _ => nofun)
  case known => simpa [Limiter.place] using sound.known
  case absent =>
    intro other beyond
    obtain ⟨apart, absent⟩ := sound.absent_set found beyond
    simpa [apart] using absent
  case stands =>
    refine sound.stands_set found rfl
      (fun other apart => ⟨by simp [apart], rfl⟩) ?_
    rintro whole ⟨rfl, -, nothing⟩
    refine ⟨by simp, ?_⟩
    rw [deedsOf_append, nothing]
    exact .stay work
  case once => simpa using once
  case asked =>
    intro other quit
    have past := sound.asked other (by simpa using quit)
    simp [past]
  case inOrder =>
    simpa [Limiter.place, empty] using inOrder

/-- Asking for a permit keeps the permits in order. -/
theorem Sound.ask
    (sound : Sound permits 0 reception)
    (number : Nat) :
    Sound permits 0
      ⟨reception.limiter.ask number,
        reception.log ++ reception.limiter.noted (.ask number)⟩ := by
  have unclosed := sound.unclosed
  cases found : reception.limiter.guests[number]? with
  | none => simpa [Limiter.ask, Limiter.noted, found] using sound
  | some guest =>
      cases guest with
      | outside work =>
          simp only [Limiter.ask, Limiter.noted, Limiter.arrive, found,
            unclosed, Bool.false_eq_true, ↓reduceIte, Bool.false_or,
            decide_eq_true_eq]
          cases free : reception.limiter.free with
          | zero => exact sound.queueUp found free
          | succ free => exact sound.admit found free
      | waiting work | admitted work | asleep wake work | answered value
      | refused | gone =>
          simpa [Limiter.ask, Limiter.noted, found] using sound

/-! ## Going on and going away -/

/-- A guest who can go on has a permit, and is in the course of its work. -/
theorem working
    {limiter : Limiter σ α}
    (going : limiter.working? number = some work) :
    ∃ guest,
      limiter.guests[number]? = some guest ∧
        guest.holdsPermit = true ∧
        ∀ {log whole},
          Stands log number whole guest →
          number ∈ entrants log ∧
            Course whole (deedsOf number log) work := by
  unfold Limiter.working? at going
  split at going
  case h_1 rest there =>
    obtain rfl := Option.some.inj going
    exact ⟨_, there, rfl, id⟩
  case h_2 wake rest there =>
    split at going
    · obtain rfl := Option.some.inj going
      exact ⟨_, there, rfl, id⟩
    · cases going
  case h_3 => cases going

/-- A guest who goes on does what its work says, and gives its permit back at the end. -/
theorem Sound.advance
    (sound : Sound permits 0 reception)
    (going : reception.limiter.working? number = some work) :
    Sound permits 0
      ⟨reception.limiter.advance number work,
        reception.log ++ reception.limiter.noted (.act number)⟩ := by
  obtain ⟨guest, found, holds, course⟩ := working going
  have notWaiting : ∀ rest, guest ≠ .waiting rest := by
    rintro rest rfl
    cases holds
  have held : guest.permits = 1 := by
    rw [Guest.permits, holds]
    rfl
  have onwards :
      ∀ whole,
        Stands reception.log number whole guest →
        number ∈
            entrants
              (reception.log ++
                [.acted number
                  (work.burstDeeds reception.limiter.shared)]) ∧
          Course whole
            (deedsOf number
              (reception.log ++
                [.acted number
                  (work.burstDeeds reception.limiter.shared)]))
            (work.burst reception.limiter.shared).1.resumed := by
    intro whole stands
    obtain ⟨inside, before⟩ := course stands
    refine ⟨by simpa using inside, ?_⟩
    simpa using before.trans (course_burst work _)
  simp only [Limiter.noted, going]
  unfold Limiter.advance
  generalize work.burst reception.limiter.shared = result at onwards
  obtain ⟨rest, shared⟩ := result
  cases rest with
  | done value =>
      have answered :
          Sound permits 1
            ⟨{ reception.limiter.place number (.answered value) with
                shared },
              reception.log ++ [.acted number _]⟩ :=
        sound.place found (.answered value) notWaiting (fun _ => nofun)
          (by rw [held]; rfl) shared (.inr ⟨_, rfl⟩) onwards
      have released := answered.release
      rwa [List.append_assoc] at released
  | pause next =>
      exact sound.place found (.admitted next) notWaiting (fun _ => nofun)
        (by rw [held]; rfl) shared (.inr ⟨_, rfl⟩) onwards
  | sleep milliseconds next =>
      exact sound.place found (.asleep _ next) notWaiting (fun _ => nofun)
        (by rw [held]; rfl) shared (.inr ⟨_, rfl⟩) onwards
  | act effect next =>
      exact sound.place found (.admitted (.act effect next)) notWaiting (fun _ => nofun)
        (by rw [held]; rfl) shared (.inr ⟨_, rfl⟩) onwards

/-- Acting keeps the permits in order. -/
theorem Sound.act
    (sound : Sound permits 0 reception)
    (number : Nat) :
    Sound permits 0
      ⟨reception.limiter.act number,
        reception.log ++ reception.limiter.noted (.act number)⟩ := by
  cases going : reception.limiter.working? number with
  | none => simpa [Limiter.act, Limiter.noted, going] using sound
  | some work =>
      rw [Limiter.act, going]
      exact sound.advance going

/-- Who gives up waiting leaves the order of the others as it is. -/
theorem Sound.giveUp
    (sound : Sound permits 0 reception)
    (found : reception.limiter.guests[number]? = some (.waiting work)) :
    Sound permits 0
      ⟨{ reception.limiter.place number .gone with
          queue := reception.limiter.queue.erase number },
        reception.log ++ [.gaveUp number]⟩ := by
  have inside := (List.getElem?_eq_some_iff.mp found).1
  have queued : number ∈ reception.limiter.queue :=
    (sound.queued number).mpr ⟨work, found⟩
  obtain ⟨-, distinct, apart⟩ := List.nodup_append.mp sound.nodup
  have outside : number ∉ entrants reception.log :=
    fun entered => apart number entered number queued rfl
  have asked : number ∈ askers reception.log := by
    have member : number ∈ entrants reception.log ++ reception.limiter.queue :=
      List.mem_append_right _ queued
    rw [← sound.inOrder] at member
    exact (List.mem_filter.mp member).1
  constructor
  case unclosed => exact sound.unclosed
  case counted =>
    have counted := sound.counted
    have held := held_place found .gone
    dsimp only [Limiter.held, Limiter.place, Guest.permits,
      Guest.holdsPermit] at counted held ⊢
    omega
  case waits =>
    intro some
    refine sound.waits fun none => some ?_
    simp [none]
  case queued =>
    intro other
    dsimp only [Limiter.place]
    rw [distinct.mem_erase_iff, sound.queued other]
    by_cases same : other = number
    · subst same
      simp [List.getElem?_set_self inside]
    · rw [List.getElem?_set_ne (Ne.symm same)]
      simp [same]
  case known => simpa [Limiter.place] using sound.known
  case absent => simpa [Limiter.place] using sound.absent
  case stands =>
    refine sound.stands_set found rfl
      (fun other _ => ⟨List.not_mem_nil, rfl⟩) ?_
    rintro whole ⟨rfl, nothing⟩
    have still : deedsOf number (reception.log ++ [.gaveUp number]) = [] := by
      simpa using nothing
    exact ⟨.inr still, work, still ▸ .stay work⟩
  case once => simpa using sound.once
  case asked =>
    intro other quit
    rw [quitters_append, List.mem_append] at quit
    rcases quit with past | now
    · simpa using sound.asked other past
    · obtain rfl := List.mem_singleton.mp now
      simpa using asked
  case inOrder =>
    have others :
        (entrants reception.log ++ reception.limiter.queue).filter
            (fun other => other != number) =
          entrants reception.log ++ reception.limiter.queue.erase number := by
      rw [List.filter_append, distinct.erase_eq_filter,
        List.filter_eq_self.mpr]
      intro other entered
      exact bne_iff_ne.mpr fun same => outside (same ▸ entered)
    rw [← sound.inOrder, List.filter_filter] at others
    simp only [askers_append, askers_cons, Happening.asker?,
      Option.toList_none, askers_nil, List.append_nil, entrants_append,
      entrants_cons, Happening.entrant?, entrants_nil]
    rw [← others]
    apply List.filter_congr
    intro other _
    by_cases same : other = number <;>
      simp [same]

/-- A guest who goes away gives its permit back, or its place in the queue. -/
theorem Sound.leave
    (sound : Sound permits 0 reception)
    (number : Nat) :
    Sound permits 0
      ⟨reception.limiter.leave number,
        reception.log ++ reception.limiter.noted (.leave number)⟩ := by
  cases found : reception.limiter.guests[number]? with
  | none => simpa [Limiter.leave, Limiter.noted, found] using sound
  | some guest =>
      simp only [Limiter.leave, Limiter.noted, found]
      cases guest with
      | outside work =>
          refine sound.place found .gone (fun _ => nofun) (fun _ => nofun)
            rfl reception.limiter.shared (.inl rfl) ?_
          rintro whole ⟨rfl, -, nothing⟩
          rw [List.append_nil]
          exact ⟨.inr nothing, work, nothing ▸ .stay work⟩
      | waiting work => exact sound.giveUp found
      | admitted work | asleep wake work =>
          have gone :
              Sound permits 1
                ⟨reception.limiter.place number .gone,
                  reception.log ++ []⟩ :=
            sound.place found .gone (fun _ => nofun) (fun _ => nofun) rfl
              reception.limiter.shared (.inl rfl)
              fun whole ⟨inside, course⟩ => by
                rw [List.append_nil]
                exact ⟨.inl inside, work, course⟩
          rw [List.append_nil] at gone
          exact gone.release
      | answered value | refused | gone => simpa using sound

/-- Every move keeps the permits in order. -/
theorem Sound.after
    (sound : Sound permits 0 reception)
    (move : Move σ α) :
    Sound permits 0 (reception.after move) := by
  cases move with
  | join work => exact sound.join work
  | ask number => exact sound.ask number
  | act number => exact sound.act number
  | leave number => exact sound.leave number
  | wait milliseconds =>
      have waited :
          Sound permits 0
            ⟨{ reception.limiter with
                clock := reception.limiter.clock + milliseconds },
              reception.log⟩ :=
        { sound with }
      simpa [Reception.after, Limiter.after, Limiter.noted] using waited
  | elsewhere shared =>
      have changed :
          Sound permits 0
            ⟨{ reception.limiter with shared }, reception.log⟩ :=
        { sound with }
      simpa [Reception.after, Limiter.after, Limiter.noted] using changed

/-- A new reception has all its permits, and nobody there. -/
theorem sound_opening
    (permits : Nat)
    (shared : σ) :
    Sound permits 0 (Reception.opening permits shared : Reception σ α) where
  unclosed := rfl
  counted := rfl
  waits := fun some => absurd rfl some
  queued := by simp [Reception.opening, Limiter.ofWorks]
  known := rfl
  absent := by simp [Reception.opening]
  stands := by simp [Reception.opening, Limiter.ofWorks]
  once := List.nodup_nil
  asked := by simp [Reception.opening]
  inOrder := rfl

/-- Whatever happens at a reception, it stays sound. -/
theorem Sound.run
    (sound : Sound permits 0 reception)
    (moves : List (Move σ α)) :
    Sound permits 0 (reception.run moves) := by
  induction moves generalizing reception with
  | nil => exact sound
  | cons move moves inductionHypothesis =>
      exact inductionHypothesis (sound.after move)

end PluggableHost.Http
