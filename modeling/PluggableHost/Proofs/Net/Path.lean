import Mathlib.Data.List.Basic
import PluggableHost.Net.Url
import PluggableHost.Proofs.Text.Utf8

namespace PluggableHost.Net.Url

open PluggableHost.Text

/-!
# Paths of URLs

Whatever text a path is made from, it is a slash and segments with slashes between
them, none of which consists of dots.  It holds visible characters of ASCII alone, and
none that begins another part of a URL.  A path that is made from a path is that path.
-/

/-- A character that stands in a path as it is. -/
def IsPlain (character : Char) : Prop :=
  character.toNat < 128 ∧ isEncoded character.toNat.toUInt8 = false

/-- Segments that make a path which stays what it is. -/
structure Settled (segments : List (List Char)) : Prop where
  some : segments ≠ []
  plain :
    ∀ segment ∈ segments, ∀ character ∈ segment,
      IsPlain character ∧ isSeparator character = false
  undotted :
    ∀ segment ∈ segments,
      isSingleDot segment = false ∧ isDoubleDot segment = false

/-- Segments, each behind a slash. -/
def joined (segments : List (List Char)) : List Char :=
  segments.flatMap fun segment => '/' :: segment

/-! ## Characters -/

/-- A character of a percent-encoded byte. -/
def IsEscape (character : Char) : Prop :=
  character = '%' ∨ ∃ value < 16, character = percentDigit value

/-- The characters of a percent-encoded byte stand as they are and separate nothing. -/
theorem IsEscape.plain
    {character : Char}
    (escape : IsEscape character) :
    IsPlain character ∧ isSeparator character = false := by
  have digits :
      ∀ value < 16,
        ((percentDigit value).toNat < 128 ∧
          isEncoded (percentDigit value).toNat.toUInt8 = false) ∧
          isSeparator (percentDigit value) = false := by
    decide
  rcases escape with rfl | ⟨value, small, rfl⟩
  · exact ⟨⟨by decide, by decide⟩, by decide⟩
  · exact digits value small

/-- A character that stands as it is can be seen. -/
theorem IsPlain.bounds
    {character : Char}
    (plain : IsPlain character) :
    32 < character.toNat ∧ character.toNat < 127 := by
  obtain ⟨ascii, unencoded⟩ := plain
  simp only [isEncoded, Bool.or_eq_false_iff, decide_eq_false_iff_not,
    ge_iff_le, UInt8.le_iff_toNat_le, toNat_toUInt8 ascii] at unencoded
  obtain ⟨⟨low, high⟩, -⟩ := unencoded
  constructor
  · exact Nat.lt_of_not_le low
  · exact Nat.lt_of_not_le high

/-- A character that stands as it is is not dropped. -/
theorem IsPlain.not_dropped
    {character : Char}
    (plain : IsPlain character) :
    isDropped character = false := by
  have above := plain.bounds.1
  simp only [isDropped, Bool.or_eq_false_iff, decide_eq_false_iff_not]
  refine ⟨⟨?_, ?_⟩, ?_⟩ <;> rintro rfl <;> exact absurd above (by decide)

/-- A byte is written as it is, or in three characters. -/
theorem mem_encodedByte
    {byte : UInt8}
    {character : Char}
    (member : character ∈ encodedByte byte) :
    (isEncoded byte = false ∧ character = Char.ofNat byte.toNat) ∨
      IsEscape character := by
  unfold encodedByte at member
  split at member
  · have bound := byte.toNat_lt
    simp only [List.mem_cons, List.not_mem_nil, or_false] at member
    rcases member with rfl | rfl | rfl
    · exact .inr (.inl rfl)
    · exact .inr (.inr ⟨_, by omega, rfl⟩)
    · exact .inr (.inr ⟨_, by omega, rfl⟩)
  · rename_i plain
    exact .inl ⟨Bool.eq_false_iff.mpr plain, List.mem_singleton.mp member⟩

/-- A character is encoded byte by byte. -/
theorem encodedChar_eq (character : Char) :
    encodedChar character =
      (String.utf8EncodeChar character).flatMap encodedByte := by
  rw [encodedChar, toList_toUTF8]
  simp

/-- What a character is encoded in is plain, and separates nothing if it does not. -/
theorem mem_encodedChar
    {character other : Char}
    (member : other ∈ encodedChar character) :
    (other = character ∧ IsPlain character) ∨ IsEscape other := by
  rw [encodedChar_eq] at member
  obtain ⟨byte, inside, member⟩ := List.mem_flatMap.mp member
  rcases mem_encodedByte member with ⟨plain, rfl⟩ | escape
  · by_cases ascii : character.toNat < 128
    · rw [utf8EncodeChar_of_ascii ascii] at inside
      obtain rfl := List.mem_singleton.mp inside
      exact .inl
        ⟨by rw [toNat_toUInt8 ascii, Char.ofNat_toNat], ascii, plain⟩
    · have beyond := le_of_mem_utf8EncodeChar (by omega) inside
      have high : byte ≥ 0x7f := UInt8.le_iff_toNat_le.mpr (show 127 ≤ byte.toNat by omega)
      simp [isEncoded, high] at plain
  · exact .inr escape

/-- A character that stands as it is encodes to itself. -/
theorem encodedChar_of_plain
    {character : Char}
    (plain : IsPlain character) :
    encodedChar character = [character] := by
  obtain ⟨ascii, unencoded⟩ := plain
  simp [encodedChar_eq, utf8EncodeChar_of_ascii ascii, encodedByte,
    unencoded, toNat_toUInt8 ascii]

/-- A segment of characters that stand as they are encodes to itself. -/
theorem encodedSegment_of_plain
    {segment : List Char}
    (plain : ∀ character ∈ segment, IsPlain character) :
    encodedSegment segment = segment := by
  induction segment with
  | nil => rfl
  | cons character rest inductionHypothesis =>
      obtain ⟨first, others⟩ := List.forall_mem_cons.mp plain
      rw [encodedSegment, List.flatMap_cons, encodedChar_of_plain first]
      exact congrArg (character :: ·) (inductionHypothesis others)

/-! ## Segments -/

/-- Nothing separates within a segment. -/
def IsWhole (segment : List Char) : Prop :=
  ∀ character ∈ segment, isSeparator character = false

/-- Every text has a segment. -/
theorem segments_ne_nil (text : List Char) :
    segments text ≠ [] := by
  unfold segments
  split
  · simp
  · split
    · simp
    · split <;> simp

/-- Nothing separates within the segments of a text. -/
theorem isWhole_of_mem_segments
    {text segment : List Char}
    (member : segment ∈ segments text) :
    IsWhole segment := by
  induction text generalizing segment with
  | nil =>
      obtain rfl := List.mem_singleton.mp member
      exact fun _ inside => absurd inside List.not_mem_nil
  | cons character rest inductionHypothesis =>
      rw [segments] at member
      split at member
      · rcases List.mem_cons.mp member with rfl | later
        · exact fun _ inside => absurd inside List.not_mem_nil
        · exact inductionHypothesis later
      · rename_i unseparated
        split at member
        · rename_i none
          exact absurd none (segments_ne_nil rest)
        · rename_i first others shape
          rw [shape] at inductionHypothesis
          rcases List.mem_cons.mp member with rfl | later
          · exact List.forall_mem_cons.mpr
              ⟨Bool.eq_false_iff.mpr unseparated,
                inductionHypothesis List.mem_cons_self⟩
          · exact inductionHypothesis (List.mem_cons_of_mem first later)

/-- A text in which nothing separates is its one segment. -/
theorem segments_of_isWhole
    {segment : List Char}
    (whole : IsWhole segment) :
    segments segment = [segment] := by
  induction segment with
  | nil => rfl
  | cons character rest inductionHypothesis =>
      obtain ⟨first, others⟩ := List.forall_mem_cons.mp whole
      rw [segments, first, if_neg Bool.false_ne_true,
        inductionHypothesis others]

/-- The first separator ends the first segment. -/
theorem segments_append
    {segment : List Char}
    (whole : IsWhole segment)
    (rest : List Char) :
    segments (segment ++ '/' :: rest) = segment :: segments rest := by
  induction segment with
  | nil => rfl
  | cons character others inductionHypothesis =>
      obtain ⟨first, later⟩ := List.forall_mem_cons.mp whole
      rw [List.cons_append, segments, first, if_neg Bool.false_ne_true,
        inductionHypothesis later]

/-- Segments behind slashes are found again, the first without its slash. -/
theorem segments_joined
    {first : List Char}
    {others : List (List Char)}
    (whole : ∀ segment ∈ first :: others, IsWhole segment) :
    segments (first ++ joined others) = first :: others := by
  induction others generalizing first with
  | nil =>
      rw [joined, List.flatMap_nil, List.append_nil]
      exact segments_of_isWhole (whole first List.mem_cons_self)
  | cons next later inductionHypothesis =>
      obtain ⟨before, after⟩ := List.forall_mem_cons.mp whole
      rw [joined, List.flatMap_cons, List.cons_append,
        segments_append before]
      exact congrArg (first :: ·) (inductionHypothesis after)

/-- An encoded segment is plain, and is still one segment. -/
theorem plain_encodedSegment
    {segment : List Char}
    (whole : IsWhole segment)
    {character : Char}
    (member : character ∈ encodedSegment segment) :
    IsPlain character ∧ isSeparator character = false := by
  obtain ⟨origin, inside, member⟩ := List.mem_flatMap.mp member
  rcases mem_encodedChar member with ⟨rfl, plain⟩ | escape
  · exact ⟨plain, whole character inside⟩
  · exact escape.plain

/-! ## Dot segments -/

/-- A segment that is left was there, or is empty. -/
theorem mem_parent
    {entered : List (List Char)}
    {segment : List Char}
    (member : segment ∈ parent entered) :
    segment ∈ entered := by
  cases entered with
  | nil => exact member
  | cons last outer =>
      rw [parent] at member
      split at member
      · exact member
      · exact List.mem_cons_of_mem last member

/-- Resolving the dots leaves a segment. -/
theorem resolve_ne_nil
    (entered : List (List Char))
    {segments : List (List Char)}
    (some : segments ≠ []) :
    resolve entered segments ≠ [] := by
  fun_induction resolve entered segments with
  | case1 => exact absurd rfl some
  | case2 | case3 | case4 => simp
  | case5 entered segment rest notLast _ inductionHypothesis
  | case6 entered segment rest notLast _ _ inductionHypothesis
  | case7 entered segment rest notLast _ _ inductionHypothesis =>
      exact inductionHypothesis notLast

/--
What is resolved has no segment of dots, if nothing that was entered has.

Climbing up enters nothing, and only a last segment of dots leaves an empty one.
-/
theorem mem_resolve
    {entered segments : List (List Char)}
    {segment : List Char}
    (member : segment ∈ resolve entered segments) :
    segment ∈ entered ∨ segment = [] ∨
      (segment ∈ segments ∧ isSingleDot segment = false ∧
        isDoubleDot segment = false) := by
  fun_induction resolve entered segments with
  | case1 entered => exact .inl member
  | case2 entered last double =>
      rcases List.mem_cons.mp member with rfl | before
      · exact .inr (.inl rfl)
      · exact .inl (mem_parent before)
  | case3 entered last notDouble single =>
      rcases List.mem_cons.mp member with rfl | before
      · exact .inr (.inl rfl)
      · exact .inl before
  | case4 entered last notDouble notSingle =>
      rcases List.mem_cons.mp member with rfl | before
      · exact .inr (.inr ⟨List.mem_cons_self,
          Bool.eq_false_iff.mpr notSingle, Bool.eq_false_iff.mpr notDouble⟩)
      · exact .inl before
  | case5 entered first rest notLast double inductionHypothesis =>
      exact (inductionHypothesis member).imp mem_parent
        (.imp_right fun later => ⟨List.mem_cons_of_mem first later.1, later.2⟩)
  | case6 entered first rest notLast notDouble single inductionHypothesis =>
      exact (inductionHypothesis member).imp_right
        (.imp_right fun later => ⟨List.mem_cons_of_mem first later.1, later.2⟩)
  | case7 entered first rest notLast notDouble notSingle inductionHypothesis =>
      rcases inductionHypothesis member with before | later
      · rcases List.mem_cons.mp before with rfl | earlier
        · exact .inr (.inr ⟨List.mem_cons_self,
            Bool.eq_false_iff.mpr notSingle,
            Bool.eq_false_iff.mpr notDouble⟩)
        · exact .inl earlier
      · exact .inr
          (later.imp_right fun later =>
            ⟨List.mem_cons_of_mem first later.1, later.2⟩)

/-- Segments without dots stay in their order. -/
theorem resolve_of_undotted
    (entered : List (List Char))
    {segments : List (List Char)}
    (undotted :
      ∀ segment ∈ segments,
        isSingleDot segment = false ∧ isDoubleDot segment = false) :
    resolve entered segments = segments.reverse ++ entered := by
  induction segments generalizing entered with
  | nil => rfl
  | cons first rest inductionHypothesis =>
      obtain ⟨⟨single, double⟩, later⟩ := List.forall_mem_cons.mp undotted
      cases rest with
      | nil => simp [resolve, single, double]
      | cons next others =>
          rw [resolve, double, single, if_neg Bool.false_ne_true,
            if_neg Bool.false_ne_true, inductionHypothesis _ later]
          · simp
          · simp

/-! ## Paths -/

/-- What every path is made of. -/
theorem pathOf_eq_joined (text : String) :
    ∃ segments,
      Settled segments ∧ pathOf text = String.ofList (joined segments) := by
  let kept :=
    withoutLeadingSeparator
      (text.toList.filter fun character => !isDropped character)
  let written := (segments kept).map encodedSegment
  have some : written ≠ [] :=
    fun none => segments_ne_nil kept (List.map_eq_nil_iff.mp none)
  refine ⟨(resolve [] written).reverse, ?_, rfl⟩
  constructor
  case some =>
    exact List.reverse_ne_nil_iff.mpr (resolve_ne_nil [] some)
  case plain =>
    intro segment member character inside
    rcases mem_resolve (List.mem_reverse.mp member) with
      none | rfl | ⟨there, -⟩
    · exact absurd none List.not_mem_nil
    · exact absurd inside List.not_mem_nil
    · obtain ⟨origin, found, rfl⟩ := List.mem_map.mp there
      exact plain_encodedSegment (isWhole_of_mem_segments found) inside
  case undotted =>
    intro segment member
    rcases mem_resolve (List.mem_reverse.mp member) with
      none | rfl | ⟨-, undotted⟩
    · exact absurd none List.not_mem_nil
    · exact ⟨rfl, rfl⟩
    · exact undotted

/-- A path of settled segments is written in characters that stand as they are. -/
theorem plain_of_mem_joined
    {segments : List (List Char)}
    (settled : Settled segments)
    {character : Char}
    (member : character ∈ joined segments) :
    IsPlain character := by
  obtain ⟨segment, there, inside⟩ := List.mem_flatMap.mp member
  rcases List.mem_cons.mp inside with rfl | later
  · exact ⟨by decide, by decide⟩
  · exact (settled.plain segment there character later).1

/-- Settled segments are what they are read as. -/
theorem pathOf_joined
    {segments : List (List Char)}
    (settled : Settled segments) :
    pathOf (String.ofList (joined segments)) =
      String.ofList (joined segments) := by
  obtain ⟨first, others, rfl⟩ := List.exists_cons_of_ne_nil settled.some
  have kept :
      (joined (first :: others)).filter
          (fun character => !isDropped character) =
        joined (first :: others) :=
    List.filter_eq_self.mpr fun character member => by
      rw [(plain_of_mem_joined settled member).not_dropped]
      rfl
  have split :
      Url.segments (withoutLeadingSeparator (joined (first :: others))) =
        first :: others :=
    segments_joined fun segment member character inside =>
      (settled.plain segment member character inside).2
  have same :
      (first :: others).map encodedSegment = first :: others := by
    calc
      (first :: others).map encodedSegment = (first :: others).map id :=
        List.map_congr_left fun segment member =>
          encodedSegment_of_plain fun character inside =>
            (settled.plain segment member character inside).1
      _ = first :: others := List.map_id _
  unfold pathOf
  dsimp only
  rw [String.toList_ofList, kept, split, same,
    resolve_of_undotted [] settled.undotted, List.append_nil,
    List.reverse_reverse]
  rfl

/-- A path that is made from a path is that path. -/
theorem pathOf_pathOf (text : String) :
    pathOf (pathOf text) = pathOf text := by
  obtain ⟨segments, settled, shape⟩ := pathOf_eq_joined text
  rw [shape, pathOf_joined settled]

/-- No character of a path begins another part of a URL. -/
theorem plain_of_mem_pathOf
    {text : String}
    {character : Char}
    (member : character ∈ (pathOf text).toList) :
    IsPlain character := by
  obtain ⟨segments, settled, shape⟩ := pathOf_eq_joined text
  rw [shape, String.toList_ofList] at member
  exact plain_of_mem_joined settled member

/-- A path begins with a slash. -/
theorem head?_pathOf (text : String) :
    (pathOf text).toList.head? = some '/' := by
  obtain ⟨segments, settled, shape⟩ := pathOf_eq_joined text
  obtain ⟨first, others, rfl⟩ := List.exists_cons_of_ne_nil settled.some
  rw [shape, String.toList_ofList]
  rfl

end PluggableHost.Net.Url
