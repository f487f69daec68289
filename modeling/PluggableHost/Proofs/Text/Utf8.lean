import Mathlib.Data.List.Basic
import PluggableHost.Text.Lossy

namespace PluggableHost.Text

open PluggableHost.Os

/-!
# Texts as bytes

The bytes of a text are those of its characters, one after another.  A character of
ASCII is one byte, its code; all bytes of any other character are beyond ASCII.
-/

/-- The bytes from a place on, behind those that were read before. -/
theorem toList_loop
    (bytes : ByteArray)
    (index : Nat)
    (before : List UInt8) :
    ByteArray.toList.loop bytes index before =
      before.reverse ++ bytes.data.toList.drop index := by
  fun_induction ByteArray.toList.loop bytes index before with
  | case1 index before inside inductionHypothesis =>
      have found : index < bytes.data.toList.length := by simpa using inside
      rw [inductionHypothesis, List.drop_eq_getElem_cons found]
      simp [ByteArray.get!, inside]
  | case2 index before outside =>
      rw [List.drop_eq_nil_of_le (by simpa using Nat.le_of_not_lt outside)]
      simp

/-- A list of bytes is that of the array made from it. -/
theorem toList_toByteArray (bytes : List UInt8) :
    bytes.toByteArray.toList = bytes := by
  rw [ByteArray.toList, toList_loop, List.toList_data_toByteArray]
  rfl

/-- The bytes of a text are those of its characters. -/
theorem toList_toUTF8 (text : String) :
    text.toUTF8.toList = text.toList.flatMap String.utf8EncodeChar := by
  conv => lhs; rw [← String.ofList_toList (s := text)]
  rw [String.toUTF8_eq_toByteArray, String.toByteArray_ofList,
    List.utf8Encode, toList_toByteArray]

/-- The bytes of two texts follow each other. -/
theorem ofText_append (first second : String) :
    Bytes.ofText (first ++ second) =
      Bytes.ofText first ++ Bytes.ofText second := by
  simp only [Bytes.ofText, toList_toUTF8, String.toList_append,
    List.flatMap_append]

/-- The code of a character of ASCII is a byte. -/
theorem toNat_toUInt8
    {character : Char}
    (ascii : character.toNat < 128) :
    character.toNat.toUInt8.toNat = character.toNat :=
  UInt8.toNat_ofNat'.trans (Nat.mod_eq_of_lt (by omega))

/-- A character of ASCII is its one byte. -/
theorem utf8EncodeChar_of_ascii
    {character : Char}
    (ascii : character.toNat < 128) :
    String.utf8EncodeChar character = [character.toNat.toUInt8] := by
  have small : character.val.toNat ≤ 127 := by
    have same : character.val.toNat = character.toNat := rfl
    omega
  rw [String.utf8EncodeChar, if_pos small]
  rfl

/--
Characters beyond ASCII have no byte within: the first one has a mark of at least 192,
and those that follow have one of 128.
-/
theorem le_of_mem_utf8EncodeChar
    {character : Char}
    (beyond : 128 ≤ character.toNat)
    {byte : UInt8}
    (member : byte ∈ String.utf8EncodeChar character) :
    128 ≤ byte.toNat := by
  have large : ¬ character.val.toNat ≤ 127 := by
    have same : character.val.toNat = character.toNat := rfl
    omega
  rw [String.utf8EncodeChar, if_neg large] at member
  split at member
  · simp only [List.mem_cons, List.not_mem_nil, or_false] at member
    rcases member with rfl | rfl <;> simp only [UInt8.toNat_ofNat'] <;> omega
  · split at member
    · simp only [List.mem_cons, List.not_mem_nil, or_false] at member
      rcases member with rfl | rfl | rfl <;>
        simp only [UInt8.toNat_ofNat'] <;> omega
    · simp only [List.mem_cons, List.not_mem_nil, or_false] at member
      rcases member with rfl | rfl | rfl | rfl <;>
        simp only [UInt8.toNat_ofNat'] <;> omega

/-! ## Texts of ASCII -/

variable {text : List Char}

/-- A text of ASCII is one byte for each character. -/
theorem ofText_of_ascii
    (ascii : ∀ character ∈ text, character.toNat < 128) :
    Bytes.ofText (String.ofList text) =
      text.map fun character => character.toNat.toUInt8 := by
  rw [Bytes.ofText, toList_toUTF8, String.toList_ofList,
    List.map_eq_flatMap]
  exact List.flatMap_congr fun character member =>
    utf8EncodeChar_of_ascii (ascii character member)

/-- The bytes of a text of ASCII are decoded to the text. -/
theorem lossyChars_of_ascii
    (ascii : ∀ character ∈ text, character.toNat < 128)
    {fuel : Nat}
    (enough : text.length ≤ fuel) :
    lossyChars fuel (text.map fun character => character.toNat.toUInt8) =
      text := by
  induction text generalizing fuel with
  | nil => cases fuel <;> rfl
  | cons character rest inductionHypothesis =>
      obtain ⟨first, later⟩ := List.forall_mem_cons.mp ascii
      have below : character.toNat.toUInt8 < 0x80 := by
        rw [UInt8.lt_iff_toNat_lt, toNat_toUInt8 first]
        exact first
      cases fuel with
      | zero => cases enough
      | succ fuel =>
          rw [List.map_cons, lossyChars, if_pos below, toNat_toUInt8 first,
            Char.ofNat_toNat,
            inductionHypothesis later (Nat.le_of_succ_le_succ enough)]

/-- A text of ASCII is shown as it is. -/
theorem lossy_ofText
    (ascii : ∀ character ∈ text, character.toNat < 128) :
    lossy (Bytes.ofText (String.ofList text)) = String.ofList text := by
  rw [ofText_of_ascii ascii, lossy,
    lossyChars_of_ascii ascii (Nat.le_of_eq (List.length_map _).symm)]

end PluggableHost.Text
