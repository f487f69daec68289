import PluggableHost.Proofs.Text.Utf8
import PluggableHost.Tls.Pem

namespace PluggableHost.Tls

open PluggableHost.Os PluggableHost.Text

/-!
# Blocks are cut out exactly

A search tells the first place at which a piece stands, and misses none.  So the block of
a label is a stretch of the bytes, from the first opening mark to the end of the first
closing mark that does not stand before it.  It holds both marks in full, although they may
share dashes, and bytes that are put behind do not change it.
-/

variable
  {piece bytes block : Bytes}
  {label : String}
  {start stop place : Nat}

/-! ## Places at which a piece stands -/

/-- A piece stands in bytes, behind as many of them as the place tells. -/
def OccursAt
    (piece bytes : Bytes)
    (place : Nat) : Prop :=
  ∃ before after,
    before.length = place ∧ bytes = before ++ piece ++ after

/-- A piece occurs where what is left of the bytes starts with it. -/
theorem occursAt_iff :
    OccursAt piece bytes place ↔
      place ≤ bytes.length ∧ piece <+: bytes.drop place := by
  constructor
  · rintro ⟨before, after, rfl, rfl⟩
    constructor
    · simp
    · rw [List.append_assoc, List.drop_left]
      exact List.prefix_append piece after
  · rintro ⟨inside, after, rest⟩
    refine ⟨bytes.take place, after, List.length_take_of_le inside, ?_⟩
    rw [List.append_assoc, rest, List.take_append_drop]

/-- A piece occurs within the bytes. -/
theorem OccursAt.place_le
    (occurs : OccursAt piece bytes place) :
    place ≤ bytes.length :=
  (occursAt_iff.mp occurs).1

/-- A piece occurs at the beginning when the bytes start with it. -/
theorem occursAt_zero :
    OccursAt piece bytes 0 ↔ piece <+: bytes := by
  simp [occursAt_iff]

/-- Only the empty piece occurs in no bytes. -/
theorem occursAt_nil :
    OccursAt piece [] place ↔ piece = [] ∧ place = 0 := by
  simp [occursAt_iff, and_comm]

/-- What occurs after the first byte occurs in the others. -/
theorem occursAt_succ
    {byte : UInt8} :
    OccursAt piece (byte :: bytes) (place + 1) ↔
      OccursAt piece bytes place := by
  simp [occursAt_iff]

/-- What occurs behind a start occurs that much further on in the whole. -/
theorem occursAt_drop
    (inside : start ≤ bytes.length) :
    OccursAt piece (bytes.drop start) place ↔
      OccursAt piece bytes (start + place) := by
  rw [occursAt_iff, occursAt_iff, List.drop_drop, List.length_drop]
  refine and_congr_left fun _ => ?_
  omega

/-- A piece ends where the bytes end, or before. -/
theorem OccursAt.end_le
    (occurs : OccursAt piece bytes place) :
    place + piece.length ≤ bytes.length := by
  obtain ⟨before, after, rfl, rfl⟩ := occurs
  simp

/-- Places at which a piece has room are the same when bytes are put behind. -/
theorem occursAt_append
    (more : Bytes)
    (room : place + piece.length ≤ bytes.length) :
    OccursAt piece (bytes ++ more) place ↔
      OccursAt piece bytes place := by
  constructor
  · rintro ⟨before, after, rfl, split⟩
    have upTo : before ++ piece <+: bytes := by
      refine List.prefix_of_prefix_length_le ⟨after, split.symm⟩
        (List.prefix_append bytes more) ?_
      rwa [List.length_append]
    obtain ⟨between, inside⟩ := upTo
    exact ⟨before, between, rfl, inside.symm⟩
  · rintro ⟨before, after, rfl, rfl⟩
    exact ⟨before, after ++ more, rfl, List.append_assoc _ after more⟩

/-- Where a piece occurs, its bytes are those of the whole. -/
theorem OccursAt.getElem?
    (occurs : OccursAt piece bytes place)
    {index : Nat}
    (inside : index < piece.length) :
    bytes[place + index]? = piece[index]? := by
  obtain ⟨before, after, rfl, rfl⟩ := occurs
  rw [List.append_assoc,
    List.getElem?_append_right (Nat.le_add_right _ _),
    Nat.add_sub_cancel_left, List.getElem?_append_left inside]

/-- The first of the places, from one on, at which a piece stands. -/
structure FirstFrom
    (start : Nat)
    (piece bytes : Bytes)
    (place : Nat) : Prop where
  notBefore : start ≤ place
  occurs : OccursAt piece bytes place
  least :
    ∀ other, start ≤ other → OccursAt piece bytes other → place ≤ other

/-- Bytes that start with a piece have it first at the beginning. -/
theorem firstFrom_iff_of_starts
    (starts : piece <+: bytes) :
    FirstFrom 0 piece bytes place ↔ place = 0 := by
  have atStart : OccursAt piece bytes 0 := occursAt_zero.mpr starts
  constructor
  · intro first
    exact Nat.le_zero.mp (first.least 0 (Nat.le_refl 0) atStart)
  · rintro rfl
    exact ⟨Nat.le_refl 0, atStart, fun other _ _ => Nat.zero_le other⟩

/-- Bytes that do not start with a piece have it first where the others have. -/
theorem firstFrom_cons
    {byte : UInt8}
    (startsNot : ¬ piece <+: byte :: bytes) :
    FirstFrom 0 piece (byte :: bytes) (place + 1) ↔
      FirstFrom 0 piece bytes place := by
  constructor
  · intro first
    refine ⟨Nat.zero_le place, occursAt_succ.mp first.occurs,
      fun other _ occurs => ?_⟩
    have later := first.least (other + 1) (Nat.zero_le _)
      (occursAt_succ.mpr occurs)
    exact Nat.le_of_succ_le_succ later
  · intro first
    refine ⟨Nat.zero_le _, occursAt_succ.mpr first.occurs,
      fun other _ occurs => ?_⟩
    cases other with
    | zero =>
        exact absurd (occursAt_zero.mp occurs) startsNot
    | succ other =>
        exact Nat.succ_le_succ
          (first.least other (Nat.zero_le other) (occursAt_succ.mp occurs))

/-- What is first behind a start is the first from there in the whole. -/
theorem firstFrom_drop
    (inside : start ≤ bytes.length) :
    FirstFrom 0 piece (bytes.drop start) place ↔
      FirstFrom start piece bytes (start + place) := by
  constructor
  · intro first
    refine ⟨Nat.le_add_right start place,
      (occursAt_drop inside).mp first.occurs, fun other notBefore occurs => ?_⟩
    obtain ⟨offset, rfl⟩ := Nat.exists_eq_add_of_le notBefore
    exact Nat.add_le_add_left
      (first.least offset (Nat.zero_le offset)
        ((occursAt_drop inside).mpr occurs))
      start
  · intro first
    refine ⟨Nat.zero_le place, (occursAt_drop inside).mpr first.occurs,
      fun other _ occurs => ?_⟩
    exact Nat.le_of_add_le_add_left
      (first.least (start + other) (Nat.le_add_right start other)
        ((occursAt_drop inside).mp occurs))

/--
The first place stays the first one when bytes are put behind: a piece at an earlier
place ends earlier, and so within the old bytes.
-/
theorem FirstFrom.append
    (first : FirstFrom start piece bytes place)
    (more : Bytes) :
    FirstFrom start piece (bytes ++ more) place where
  notBefore := first.notBefore
  occurs := (occursAt_append more first.occurs.end_le).mpr first.occurs
  least := by
    intro other notBefore occurs
    by_contra earlier
    have room : other + piece.length ≤ bytes.length := by
      have ends := first.occurs.end_le
      omega
    exact earlier
      (first.least other notBefore ((occursAt_append more room).mp occurs))

/-! ## Searches -/

/-- The search ends at once where the piece stands. -/
theorem indexOf?_of_starts
    (starts : piece <+: bytes) :
    indexOf? piece bytes = some 0 := by
  cases bytes with
  | nil =>
      rw [List.prefix_nil.mp starts]
      rfl
  | cons byte rest =>
      rw [indexOf?, if_pos (List.isPrefixOf_iff_prefix.mpr starts)]

/-- The search ends in vain at the end. -/
theorem indexOf?_nil_of_startsNot
    (startsNot : ¬ piece <+: []) :
    indexOf? piece [] = none := by
  rw [List.prefix_nil] at startsNot
  rw [indexOf?, if_neg (mt List.isEmpty_iff.mp startsNot)]

/-- The search goes on where the piece does not stand. -/
theorem indexOf?_cons_of_startsNot
    {byte : UInt8}
    (startsNot : ¬ piece <+: byte :: bytes) :
    indexOf? piece (byte :: bytes) = (indexOf? piece bytes).map (· + 1) := by
  rw [indexOf?, if_neg (mt List.isPrefixOf_iff_prefix.mp startsNot)]

/-- What the search finds is the first occurrence. -/
theorem indexOf?_eq_some_iff :
    indexOf? piece bytes = some place ↔
      FirstFrom 0 piece bytes place := by
  induction bytes generalizing place with
  | nil =>
      by_cases starts : piece <+: []
      · rw [indexOf?_of_starts starts, firstFrom_iff_of_starts starts,
          Option.some.injEq, eq_comm]
      · rw [indexOf?_nil_of_startsNot starts]
        refine iff_of_false nofun fun first => starts ?_
        exact List.prefix_nil.mpr (occursAt_nil.mp first.occurs).1
  | cons byte rest inductionHypothesis =>
      by_cases starts : piece <+: byte :: rest
      · rw [indexOf?_of_starts starts, firstFrom_iff_of_starts starts,
          Option.some.injEq, eq_comm]
      · rw [indexOf?_cons_of_startsNot starts]
        cases place with
        | zero =>
            refine iff_of_false (by simp) fun first => starts ?_
            exact occursAt_zero.mp first.occurs
        | succ place =>
            rw [firstFrom_cons starts, ← inductionHypothesis]
            simp

/-- The search finds nothing exactly when there is nothing to find. -/
theorem indexOf?_eq_none_iff :
    indexOf? piece bytes = none ↔
      ∀ place, ¬ OccursAt piece bytes place := by
  constructor
  · intro missed place occurs
    induction bytes generalizing place with
    | nil =>
        have starts : piece <+: [] :=
          List.prefix_nil.mpr (occursAt_nil.mp occurs).1
        rw [indexOf?_of_starts starts] at missed
        cases missed
    | cons byte rest inductionHypothesis =>
        by_cases starts : piece <+: byte :: rest
        · rw [indexOf?_of_starts starts] at missed
          cases missed
        · rw [indexOf?_cons_of_startsNot starts, Option.map_eq_none_iff]
            at missed
          cases place with
          | zero =>
              exact starts (occursAt_zero.mp occurs)
          | succ place =>
              exact inductionHypothesis missed place
                (occursAt_succ.mp occurs)
  · intro nowhere
    rw [Option.eq_none_iff_forall_ne_some]
    intro place found
    exact nowhere place (indexOf?_eq_some_iff.mp found).occurs

/-- A search behind a place counts from there. -/
theorem indexOf?_drop_eq_some_iff
    (inside : start ≤ bytes.length) :
    indexOf? piece (bytes.drop start) = some place ↔
      FirstFrom start piece bytes (start + place) := by
  rw [indexOf?_eq_some_iff, firstFrom_drop inside]

/-- What occurs has a first occurrence. -/
theorem exists_firstFrom
    (notBefore : start ≤ place)
    (occurs : OccursAt piece bytes place) :
    ∃ first, FirstFrom start piece bytes first := by
  have inside : start ≤ bytes.length :=
    Nat.le_trans notBefore occurs.place_le
  obtain ⟨offset, rfl⟩ := Nat.exists_eq_add_of_le notBefore
  cases search : indexOf? piece (bytes.drop start) with
  | none =>
      exact absurd ((occursAt_drop inside).mpr occurs)
        (indexOf?_eq_none_iff.mp search offset)
  | some first =>
      exact ⟨start + first, (indexOf?_drop_eq_some_iff inside).mp search⟩

/-- What a search for a piece tells about bytes. -/
structure SearchedExactly
    (piece bytes : Bytes) : Prop where
  found :
    ∀ place,
      indexOf? piece bytes = some place ↔ FirstFrom 0 piece bytes place
  missed :
    indexOf? piece bytes = none ↔ ∀ place, ¬ OccursAt piece bytes place

/-! ## Marks -/

/-- The dashes of a mark as bytes. -/
theorem ofText_dashes :
    Bytes.ofText "-----" = [45, 45, 45, 45, 45] := by
  decide +kernel

/-- The opening mark of a label as bytes. -/
theorem openingMark_eq
    (label : String) :
    openingMark label =
      [45, 45, 45, 45, 45, 66, 69, 71, 73, 78, 32] ++ Bytes.ofText label ++
        [45, 45, 45, 45, 45] := by
  have front :
      Bytes.ofText "-----BEGIN " =
        [45, 45, 45, 45, 45, 66, 69, 71, 73, 78, 32] := by
    decide +kernel
  rw [openingMark, ofText_append, ofText_append, front, ofText_dashes]

/-- The closing mark of a label as bytes. -/
theorem closingMark_eq
    (label : String) :
    closingMark label =
      [45, 45, 45, 45, 45, 69, 78, 68, 32] ++ Bytes.ofText label ++
        [45, 45, 45, 45, 45] := by
  have front :
      Bytes.ofText "-----END " = [45, 45, 45, 45, 45, 69, 78, 68, 32] := by
    decide +kernel
  rw [closingMark, ofText_append, ofText_append, front, ofText_dashes]

/-- The opening mark is two bytes longer than the closing one. -/
theorem length_openingMark
    (label : String) :
    (openingMark label).length = (closingMark label).length + 2 := by
  simp [openingMark_eq, closingMark_eq]

/--
A closing mark that does not start before an opening mark does not end before it either:
the letter behind the dashes of the opening mark is no byte of it.
-/
theorem openingMark_end_le
    (opens : OccursAt (openingMark label) bytes start)
    (closes : OccursAt (closingMark label) bytes stop)
    (inOrder : start ≤ stop) :
    start + (openingMark label).length ≤
      stop + (closingMark label).length := by
  have lengths := length_openingMark label
  have room : 5 < (closingMark label).length := by
    simp [closingMark_eq]
  by_contra endsBefore
  have letter : bytes[start + 5]? = some 66 := by
    rw [opens.getElem? (by omega), openingMark_eq]
    rfl
  have cases : stop = start ∨ stop = start + 1 := by
    omega
  rcases cases with rfl | rfl
  · have other := closes.getElem? (show 5 < _ by omega)
    rw [letter, closingMark_eq] at other
    cases other
  · have other := closes.getElem? (show 4 < _ by omega)
    rw [Nat.add_assoc, letter, closingMark_eq] at other
    cases other

/-! ## Blocks -/

/-- A block runs from the first opening to the end of the first closing from there. -/
theorem pemBlock?_eq_some_iff :
    pemBlock? bytes label = some block ↔
      ∃ start stop,
        FirstFrom 0 (openingMark label) bytes start ∧
          FirstFrom start (closingMark label) bytes stop ∧
          block =
            bytes.extract start (stop + (closingMark label).length) := by
  have cut (start offset : Nat) :
      (bytes.drop start).take (offset + (closingMark label).length) =
        bytes.extract start
          (start + offset + (closingMark label).length) := by
    rw [List.extract_eq_take_drop]
    congr 1
    omega
  have steps :
      pemBlock? bytes label = some block ↔
        ∃ start, indexOf? (openingMark label) bytes = some start ∧
          ∃ offset,
            indexOf? (closingMark label) (bytes.drop start) =
                some offset ∧
              (bytes.drop start).take
                  (offset + (closingMark label).length) = block := by
    simp [pemBlock?, Option.bind_eq_some_iff]
  rw [steps]
  refine exists_congr fun start => ?_
  rw [indexOf?_eq_some_iff]
  constructor
  · rintro ⟨opens, offset, closes, rfl⟩
    exact ⟨start + offset, opens,
      (indexOf?_drop_eq_some_iff opens.occurs.place_le).mp closes,
      cut start offset⟩
  · rintro ⟨stop, opens, closes, rfl⟩
    obtain ⟨offset, rfl⟩ := Nat.exists_eq_add_of_le closes.notBefore
    exact ⟨opens, offset,
      (indexOf?_drop_eq_some_iff opens.occurs.place_le).mpr closes,
      cut start offset⟩

/-- There is a block exactly when a closing stands behind the first opening. -/
theorem isSome_pemBlock?_iff :
    (pemBlock? bytes label).isSome = true ↔
      ∃ start,
        FirstFrom 0 (openingMark label) bytes start ∧
          ∃ stop,
            start ≤ stop ∧ OccursAt (closingMark label) bytes stop := by
  rw [Option.isSome_iff_exists]
  constructor
  · rintro ⟨block, found⟩
    obtain ⟨start, stop, opens, closes, -⟩ := pemBlock?_eq_some_iff.mp found
    exact ⟨start, opens, stop, closes.notBefore, closes.occurs⟩
  · rintro ⟨start, opens, stop, inOrder, occurs⟩
    obtain ⟨first, closes⟩ := exists_firstFrom inOrder occurs
    exact ⟨_, pemBlock?_eq_some_iff.mpr
      ⟨start, first, opens, closes, rfl⟩⟩

/-- Places at which a block is cut out are within the bytes. -/
theorem cuts_inside
    {offset : Nat}
    (opens : indexOf? (openingMark label) bytes = some start)
    (closes :
      indexOf? (closingMark label) (bytes.drop start) = some offset) :
    start + offset + (closingMark label).length ≤ bytes.length := by
  have opening := indexOf?_eq_some_iff.mp opens
  have closing :=
    (indexOf?_drop_eq_some_iff opening.occurs.place_le).mp closes
  exact closing.occurs.end_le

/-- A block starts with its opening mark. -/
theorem openingMark_starts
    (found : pemBlock? bytes label = some block) :
    openingMark label <+: block := by
  obtain ⟨start, stop, opens, closes, rfl⟩ := pemBlock?_eq_some_iff.mp found
  have ends := openingMark_end_le opens.occurs closes.occurs closes.notBefore
  rw [List.extract_eq_take_drop, List.prefix_take_iff]
  exact ⟨(occursAt_iff.mp opens.occurs).2, by omega⟩

/-- A block ends with its closing mark. -/
theorem closingMark_ends
    (found : pemBlock? bytes label = some block) :
    closingMark label <:+ block := by
  obtain ⟨start, stop, opens, closes, rfl⟩ := pemBlock?_eq_some_iff.mp found
  have mark :
      (bytes.drop stop).take (closingMark label).length =
        closingMark label :=
    (List.prefix_iff_eq_take.mp (occursAt_iff.mp closes.occurs).2).symm
  obtain ⟨offset, rfl⟩ := Nat.exists_eq_add_of_le closes.notBefore
  have length :
      start + offset + (closingMark label).length - start =
        offset + (closingMark label).length := by
    omega
  rw [List.extract_eq_take_drop, length, List.take_add, List.drop_drop,
    mark]
  exact List.suffix_append _ _

/-- A block stays what it is when bytes are put behind. -/
theorem pemBlock?_append
    (found : pemBlock? bytes label = some block)
    (more : Bytes) :
    pemBlock? (bytes ++ more) label = some block := by
  obtain ⟨start, stop, opens, closes, rfl⟩ := pemBlock?_eq_some_iff.mp found
  refine pemBlock?_eq_some_iff.mpr
    ⟨start, stop, opens.append more, closes.append more, ?_⟩
  have enough :
      stop + (closingMark label).length - start ≤
        (bytes.drop start).length := by
    have ends := closes.occurs.end_le
    rw [List.length_drop]
    omega
  rw [List.extract_eq_take_drop, List.extract_eq_take_drop,
    List.drop_append_of_le_length opens.occurs.place_le,
    List.take_append_of_le_length enough]

/-- What is cut out of bytes for a label. -/
structure CutExactly
    (bytes : Bytes)
    (label : String) : Prop where
  /-- A block takes an opening mark, and a closing mark not before the first of these. -/
  present :
    (pemBlock? bytes label).isSome = true ↔
      ∃ start,
        FirstFrom 0 (openingMark label) bytes start ∧
          ∃ stop, start ≤ stop ∧ OccursAt (closingMark label) bytes stop
  /-- A block goes from the first opening mark to the end of the closing mark that comes next. -/
  cut :
    ∀ block,
      pemBlock? bytes label = some block ↔
        ∃ start stop,
          FirstFrom 0 (openingMark label) bytes start ∧
            FirstFrom start (closingMark label) bytes stop ∧
            stop + (closingMark label).length ≤ bytes.length ∧
            block =
              bytes.extract start (stop + (closingMark label).length)
  /-- Nothing is cut at a place outside the bytes, also where there is no block in the end. -/
  inside :
    ∀ start,
      indexOf? (openingMark label) bytes = some start →
        start ≤ bytes.length ∧
          ∀ offset,
            indexOf? (closingMark label) (bytes.drop start) =
                some offset →
              start ≤ start + offset + (closingMark label).length ∧
                start + offset + (closingMark label).length ≤ bytes.length
  /-- Both marks are in a block in full. -/
  whole :
    ∀ block,
      pemBlock? bytes label = some block →
        openingMark label <+: block ∧ closingMark label <:+ block
  /-- A block does not depend on what follows. -/
  lasting :
    ∀ block,
      pemBlock? bytes label = some block →
        ∀ more, pemBlock? (bytes ++ more) label = some block

/--
Searches tell first places and miss none, and the block of a label is the stretch of the
bytes between the places that were found for its marks.
-/
theorem cutsExactly
    (bytes : Bytes)
    (label : String) :
    (∀ piece, SearchedExactly piece bytes) ∧ CutExactly bytes label := by
  refine ⟨fun piece =>
    ⟨fun _ => indexOf?_eq_some_iff, indexOf?_eq_none_iff⟩, ?_⟩
  constructor
  case present =>
    exact isSome_pemBlock?_iff
  case cut =>
    intro block
    rw [pemBlock?_eq_some_iff]
    constructor
    · rintro ⟨start, stop, opens, closes, rfl⟩
      exact ⟨start, stop, opens, closes, closes.occurs.end_le, rfl⟩
    · rintro ⟨start, stop, opens, closes, -, rfl⟩
      exact ⟨start, stop, opens, closes, rfl⟩
  case inside =>
    intro start opens
    have first := indexOf?_eq_some_iff.mp opens
    refine ⟨first.occurs.place_le,
      fun offset closes => ⟨?_, cuts_inside opens closes⟩⟩
    rw [Nat.add_assoc]
    exact Nat.le_add_right start _
  case whole =>
    exact fun block found =>
      ⟨openingMark_starts found, closingMark_ends found⟩
  case lasting =>
    exact fun block found => pemBlock?_append found

/-- A closing mark before the opening one does not count, and one may share its dashes. -/
example :
    pemBlock?
        (.ofText "-----END X-----\n-----BEGIN X-----END X-----\n") "X" =
      some (.ofText "-----BEGIN X-----END X-----") := by
  decide +kernel

end PluggableHost.Tls
