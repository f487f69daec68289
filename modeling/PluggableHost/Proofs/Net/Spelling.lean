import PluggableHost.Net.Address.Reader
import PluggableHost.Proofs.Text.Digits

namespace PluggableHost.Net

open PluggableHost.Text

/-!
# Addresses are read as they are written

Every address has one canonical text, and reading that text gives the address back,
whatever follows it that cannot belong to an address.  For IPv6 this is so however
the text is shortened: the zeros that `::` stands for are told by the groups on its
two sides, and a carried IPv4 address takes the room of the last two groups.
-/

/-! ## Numbers -/

/-- A shape that can be written in digits has room for a number. -/
structure NumberShape.Admits
    (shape : NumberShape)
    (number : Nat) : Prop where
  proper : 1 < shape.base
  known : shape.base ≤ 16
  bounded : number < shape.bound
  narrow :
    ∀ width ∈ shape.width,
      0 < width ∧ number < Nat.pow shape.base width

/-- Every octet is a number of its shape. -/
theorem admits_octet (octet : UInt8) :
    NumberShape.octet.Admits octet.toNat := by
  have bounded := octet.toNat_lt
  constructor <;> simp [NumberShape.octet] <;> omega

/-- Every group is a number of its shape. -/
theorem admits_group (group : UInt16) :
    NumberShape.group.Admits group.toNat := by
  have bounded := group.toNat_lt
  constructor <;> simp [NumberShape.group] <;> omega

/-- Every port is a number of its shape. -/
theorem admits_port (port : UInt16) :
    NumberShape.port.Admits port.toNat := by
  have bounded := port.toNat_lt
  constructor <;> simp [NumberShape.port]
  omega

/-- Every scope is a number of its shape. -/
theorem admits_scope (scope : UInt32) :
    NumberShape.scope.Admits scope.toNat := by
  have bounded := scope.toNat_lt
  constructor <;> simp [NumberShape.scope]
  omega

/-- A number is read as it is written, up to the first character that is no digit. -/
theorem readNumber_toDigits
    {shape : NumberShape}
    {number : Nat}
    {rest : List Char}
    (admits : shape.Admits number)
    (undigited : Undigited shape.base rest) :
    readNumber shape (Nat.toDigits shape.base number ++ rest) =
      some (number, rest) := by
  have digits :
      ∀ character ∈ Nat.toDigits shape.base number,
        isDigitOf shape.base character = true :=
    fun _ member =>
      isDigitOf_of_mem_toDigits admits.proper admits.known member
  have narrow :
      (shape.width.any fun width =>
        decide (width < (Nat.toDigits shape.base number).length)) =
          false := by
    cases found : shape.width with
    | none =>
        rfl
    | some width =>
        obtain ⟨positive, small⟩ := admits.narrow width found
        have short :=
          (Nat.length_toDigits_le_iff admits.proper positive).mpr small
        simpa using short
  have unpadded :
      ¬ (1 < (Nat.toDigits shape.base number).length ∧
        (Nat.toDigits shape.base number).head? = some '0') :=
    fun padded =>
      head?_toDigits_of_length admits.proper padded.1 padded.2
  simp only [readNumber, List.takeWhile_append_of_pos digits,
    List.dropWhile_append_of_pos digits, undigited.takeWhile,
    undigited.dropWhile, List.append_nil,
    digitsValue_toDigits admits.proper admits.known]
  rw [if_neg]
  simp only [narrow, Bool.or_eq_true, Bool.and_eq_true, decide_eq_true_eq,
    Bool.not_eq_true', beq_iff_eq, List.isEmpty_iff, not_or]
  refine ⟨⟨⟨Nat.toDigits_ne_nil, by simp⟩, ?_⟩, Nat.not_le.mpr admits.bounded⟩
  rintro ⟨⟨-, several⟩, padded⟩
  exact unpadded ⟨several, padded⟩

/-- Where no digit stands, no number is read. -/
theorem readNumber_of_undigited
    {shape : NumberShape}
    {text : List Char}
    (undigited : Undigited shape.base text) :
    readNumber shape text = none := by
  simp [readNumber, undigited.takeWhile]

/-- After a number the text goes on behind its digits. -/
theorem rest_of_readNumber
    {shape : NumberShape}
    {text rest : List Char}
    {number : Nat}
    (read : readNumber shape text = some (number, rest)) :
    rest = text.dropWhile (isDigitOf shape.base) := by
  unfold readNumber at read
  dsimp only at read
  split at read
  · cases read
  · cases read
    rfl

/-- A character is read where it stands. -/
theorem readChar_self
    (character : Char)
    (rest : List Char) :
    readChar character (character :: rest) = some rest := by
  simp [readChar]

/-- A character that is read stands at the head of the text. -/
theorem eq_cons_of_readChar
    {character : Char}
    {text rest : List Char}
    (read : readChar character text = some rest) :
    text = character :: rest := by
  cases text with
  | nil =>
      cases read
  | cons first others =>
      simp only [readChar, Option.ite_none_right_eq_some,
        Option.some.injEq] at read
      obtain ⟨rfl, rfl⟩ := read
      rfl

/-- A character is not read where another stands. -/
theorem readChar_of_head?_ne
    {character : Char}
    {text : List Char}
    (other : text.head? ≠ some character) :
    readChar character text = none := by
  cases text with
  | nil =>
      rfl
  | cons first rest =>
      have different : first ≠ character := by
        simpa using other
      simp [readChar, different]

/-! ## IPv4 -/

/-- The four numbers of an address with points between them. -/
theorem Ipv4.toList_text (address : Ipv4) :
    address.text.toList =
      Nat.toDigits 10 address.first.toNat ++
        '.' :: (Nat.toDigits 10 address.second.toNat ++
          '.' :: (Nat.toDigits 10 address.third.toNat ++
            '.' :: Nat.toDigits 10 address.fourth.toNat)) := by
  simp [Ipv4.text, octets]

/-- The text of an IPv4 address is read as the address, up to where no digit follows. -/
theorem readIpv4_text
    (address : Ipv4)
    {rest : List Char}
    (undigited : Undigited 10 rest) :
    readIpv4 (address.text.toList ++ rest) = some (address, rest) := by
  have octet
      (octet : UInt8)
      {more : List Char}
      (ends : Undigited 10 more) :
      readNumber .octet (Nat.toDigits 10 octet.toNat ++ more) =
        some (octet.toNat, more) :=
    readNumber_toDigits (admits_octet octet) ends
  have point (more : List Char) : Undigited 10 ('.' :: more) :=
    undigited_cons.mpr (by decide)
  rw [address.toList_text]
  simp only [readIpv4, List.append_assoc, List.cons_append,
    octet _ (point _), octet _ undigited, readChar_self,
    Option.bind_eq_bind, Option.bind_some]
  simp

/-- A text without a point behind its digits is no IPv4 address. -/
theorem readIpv4_of_unpointed
    {text : List Char}
    (unpointed : (text.dropWhile (isDigitOf 10)).head? ≠ some '.') :
    readIpv4 text = none := by
  unfold readIpv4
  cases read : readNumber .octet text with
  | none =>
      rfl
  | some reading =>
      obtain ⟨number, rest⟩ := reading
      obtain rfl := rest_of_readNumber read
      have stuck := readChar_of_head?_ne unpointed
      simp [NumberShape.octet, stuck]

/-! ## Groups -/

/-- The characters of one group. -/
def groupChars (group : UInt16) : List Char :=
  Nat.toDigits 16 group.toNat

/-- Neither a number nor an IPv4 address goes on with the text. -/
structure Parted (text : List Char) : Prop where
  undigited : Undigited 16 text
  unpointed : text.head? ≠ some '.'

/-- The text does not go on with an address: no group follows, with or without a colon. -/
structure Ended (text : List Char) : Prop where
  parted : Parted text
  groupless : ∀ more, text = ':' :: more → Parted more

/-- No number goes on with a character that is neither a digit nor a point. -/
theorem parted_cons
    {character : Char}
    {rest : List Char}
    (noDigit : isDigitOf 16 character = false)
    (noPoint : character ≠ '.') :
    Parted (character :: rest) :=
  { undigited := undigited_cons.mpr noDigit
    unpointed := by simpa using noPoint }

/-- A character that addresses do not contain ends an address. -/
theorem ended_cons
    {character : Char}
    {rest : List Char}
    (noDigit : isDigitOf 16 character = false)
    (noPoint : character ≠ '.')
    (noColon : character ≠ ':') :
    Ended (character :: rest) :=
  { parted := parted_cons noDigit noPoint
    groupless := fun _ shape => absurd (List.head_eq_of_cons_eq shape) noColon }

/-- Two colons end the groups in front of them. -/
theorem ended_colons (rest : List Char) : Ended (':' :: ':' :: rest) :=
  { parted := parted_cons (by decide) (by decide)
    groupless := fun _ shape =>
      List.tail_eq_of_cons_eq shape ▸ parted_cons (by decide) (by decide) }

/-- Where no number goes on, no IPv4 address is read. -/
theorem Parted.readIpv4
    {text : List Char}
    (parted : Parted text) :
    readIpv4 text = none := by
  apply readIpv4_of_unpointed
  rw [(parted.undigited.mono (by decide)).dropWhile]
  exact parted.unpointed

/-- Decimal digits at the front of a group leave a digit, or what follows the group. -/
theorem head?_dropWhile_digits
    {digits rest : List Char}
    (isDigit :
      ∀ character ∈ digits, isDigitOf 16 character = true)
    (parted : Parted rest) :
    ((digits ++ rest).dropWhile (isDigitOf 10)).head? ≠ some '.' := by
  induction digits with
  | nil =>
      rw [List.nil_append, (parted.undigited.mono (by decide)).dropWhile]
      exact parted.unpointed
  | cons first others inductionHypothesis =>
      rw [List.cons_append, List.dropWhile_cons]
      split
      · exact inductionHypothesis fun character member =>
          isDigit character (List.mem_cons_of_mem _ member)
      · have hexadecimal := isDigit first List.mem_cons_self
        rw [List.head?_cons, ne_eq, Option.some.injEq]
        rintro rfl
        exact absurd hexadecimal (by decide)

/-- A group that is not followed by a point is not the start of an IPv4 address. -/
theorem readIpv4_groupChars
    (group : UInt16)
    {rest : List Char}
    (parted : Parted rest) :
    readIpv4 (groupChars group ++ rest) = none :=
  readIpv4_of_unpointed
    (head?_dropWhile_digits
      (fun _ member =>
        isDigitOf_of_mem_toDigits (by decide) (by decide) member)
      parted)

/-- The digits of a group are read as the group. -/
theorem readNumber_groupChars
    (group : UInt16)
    {rest : List Char}
    (parted : Parted rest) :
    readNumber .group (groupChars group ++ rest) =
      some (group.toNat, rest) :=
  readNumber_toDigits (admits_group group) parted.undigited

/-- The separator before a group, as it is written. -/
def separator (isFirst : Bool) : List Char :=
  if isFirst then [] else [':']

/-- The colon before a group is read, and none is before the first. -/
theorem readSeparator_separator
    (isFirst : Bool)
    (text : List Char) :
    readSeparator isFirst (separator isFirst ++ text) = some text := by
  cases isFirst <;>
    simp [readSeparator, separator, readChar]

/-- Groups as they are written, with a separator before each of them. -/
def spelled (isFirst : Bool) : List UInt16 → List Char
  | [] => []
  | group :: rest =>
      separator isFirst ++ groupChars group ++ spelled false rest

/-- One group is read when there is room for it. -/
theorem readGroups_group
    (isFirst : Bool)
    (group : UInt16)
    {rest : List Char}
    (room : Nat)
    (parted : Parted rest) :
    readGroups isFirst (separator isFirst ++ (groupChars group ++ rest))
        (room + 1) =
      let run := readGroups false rest room
      ⟨group :: run.groups, run.endedInIpv4, run.rest⟩ := by
  rw [readGroups]
  simp [readSeparator_separator, readIpv4_groupChars group parted,
    readNumber_groupChars group parted]

/-- No group is read where an address ends. -/
theorem readGroups_of_ended
    (isFirst : Bool)
    {text : List Char}
    (ended : Ended text)
    (room : Nat) :
    readGroups isFirst text room = ⟨[], false, text⟩ := by
  cases room with
  | zero =>
      rfl
  | succ room =>
      cases separated : readSeparator isFirst text with
      | none =>
          simp [readGroups, separated]
      | some more =>
          have parted : Parted more := by
            cases isFirst with
            | true =>
                cases separated
                exact ended.parted
            | false =>
                exact ended.groupless more (eq_cons_of_readChar separated)
          have numberless : readNumber .group more = none :=
            readNumber_of_undigited parted.undigited
          simp [readGroups, separated, parted.readIpv4, numberless]

/-- What follows groups is apart from the number before it. -/
theorem parted_spelled
    (groups : List UInt16)
    {rest : List Char}
    (parted : Parted rest) :
    Parted (spelled false groups ++ rest) := by
  cases groups with
  | nil =>
      exact parted
  | cons group others =>
      exact parted_cons (by decide) (by decide)

/-- All groups are read, up to what is read behind them. -/
theorem readGroups_spelled
    (isFirst : Bool)
    (groups : List UInt16)
    {rest : List Char}
    {room : Nat}
    (parted : Parted rest)
    (fits : groups.length ≤ room) :
    readGroups isFirst (spelled isFirst groups ++ rest) room =
      let run :=
        readGroups (isFirst && groups.isEmpty) rest (room - groups.length)
      ⟨groups ++ run.groups, run.endedInIpv4, run.rest⟩ := by
  induction groups generalizing isFirst room with
  | nil =>
      simp [spelled]
  | cons group others inductionHypothesis =>
      cases room with
      | zero =>
          simp at fits
      | succ room =>
          have later :=
            inductionHypothesis false (Nat.le_of_succ_le_succ fits)
          have apart := parted_spelled others parted
          simp only [spelled, List.append_assoc]
          rw [readGroups_group isFirst group room apart, later]
          simp

/-! ## IPv6 -/

/-- Groups with colons between them. -/
theorem intercalate_groupChars
    (group : UInt16)
    (others : List UInt16) :
    [':'].intercalate ((group :: others).map groupChars) =
      spelled true (group :: others) := by
  induction others generalizing group with
  | nil =>
      simp [spelled, separator]
  | cons next others inductionHypothesis =>
      have later := inductionHypothesis next
      simp only [List.map_cons] at later ⊢
      rw [List.intercalate_cons_cons, later]
      simp [spelled, separator]

/-- Groups are joined as they are spelled. -/
theorem toList_joined (groups : List UInt16) :
    (Ipv6.joined groups).toList = spelled true groups := by
  have texts :
      (groups.map Ipv6.groupText).map String.toList =
        groups.map groupChars := by
    simp [Ipv6.groupText, groupChars]
  rw [Ipv6.joined, String.toList_intercalate, texts]
  cases groups with
  | nil =>
      rfl
  | cons group others =>
      exact intercalate_groupChars group others

/-- Where a run of zeros stands among groups. -/
def ZeroRun.Covers
    (run : ZeroRun)
    (groups : List UInt16) : Prop :=
  ∃ head tail,
    head.length = run.start ∧
      groups = head ++ List.replicate run.length 0 ++ tail

/-- What is found is a run of zeros, if what was found before is one. -/
theorem covers_longestZeroRun
    {current : ZeroRun}
    {before head : List UInt16}
    (start : head.length = current.start)
    (shape : before = head ++ List.replicate current.length 0)
    (groups : List UInt16) :
    (longestZeroRun before.length current groups).Covers
      (before ++ groups) := by
  induction groups generalizing current before head with
  | nil =>
      exact ⟨head, [], start, by simp [longestZeroRun, shape]⟩
  | cons group rest inductionHypothesis =>
      have position : before.length + 1 = (before ++ [group]).length := by
        simp
      have whole : before ++ group :: rest = before ++ [group] ++ rest := by
        simp
      rw [longestZeroRun, position, whole]
      split
      · next zero =>
          have longer :
              before ++ [group] =
                head ++ List.replicate (current.length + 1) 0 := by
            simp [shape, zero, List.replicate_succ']
          exact inductionHypothesis start longer
      · rw [ZeroRun.longer]
        split
        · exact inductionHypothesis rfl (List.append_nil _).symm
        · exact ⟨head, group :: rest, start, by simp [shape]⟩

/-- How an address is written in groups: all of them, or those around some zeros. -/
inductive Ipv6.Spelled (address : Ipv6) : List Char → Prop where
  | whole : Spelled address (spelled true address.toList)
  | shortened
      (head tail : List UInt16)
      (count : Nat)
      (several : 1 < count)
      (shape :
        address.toList = head ++ List.replicate count 0 ++ tail) :
      Spelled address (spelled true head ++ ':' :: ':' :: spelled true tail)

/-- The text of an IPv6 address spells it. -/
theorem Ipv6.spelled_groupsText (address : Ipv6) :
    address.Spelled address.groupsText.toList := by
  have atOnce : ([] : List UInt16).length = (⟨0, 0⟩ : ZeroRun).start := rfl
  have covers :
      (longestZeroRun 0 ⟨0, 0⟩ address.toList).Covers address.toList :=
    covers_longestZeroRun atOnce rfl address.toList
  obtain ⟨head, tail, start, shape⟩ := covers
  unfold groupsText
  dsimp only
  generalize longestZeroRun 0 ⟨0, 0⟩ address.toList = run at start shape ⊢
  split
  · next several =>
      have before : address.toList.take run.start = head := by
        rw [shape, ← start]
        simp
      have behind :
          address.toList.drop (run.start + run.length) = tail := by
        rw [shape, ← start]
        simp
      rw [before, behind]
      simp only [String.toList_append, toList_joined, List.append_assoc]
      exact .shortened head tail run.length several shape
  · rw [toList_joined]
    exact .whole

/-- An IPv6 address has eight groups. -/
theorem Ipv6.length_toList (address : Ipv6) :
    address.toList.length = 8 := by
  simp [toList]

/-- The eight groups of an IPv6 address make it up. -/
theorem Ipv6.ofList?_toList (address : Ipv6) :
    ofList? address.toList = some address := by
  obtain ⟨⟨⟨groups⟩, size⟩⟩ := address
  have eight : groups.length = 8 := size
  simp [ofList?, toList, eight]

/-- An address around two colons is read from the groups on their two sides. -/
theorem readIpv6_colons
    {head : List UInt16}
    (short : head.length < 8)
    (text : List Char) :
    readIpv6 (spelled true head ++ ':' :: ':' :: text) =
      let tail := readGroups true text (8 - (head.length + 1))
      let zeros :=
        List.replicate (8 - head.length - tail.groups.length) 0
      (Ipv6.ofList? (head ++ zeros ++ tail.groups)).map (·, tail.rest) := by
  have colons := ended_colons text
  have before :
      readGroups true (spelled true head ++ ':' :: ':' :: text) 8 =
        ⟨head, false, ':' :: ':' :: text⟩ := by
    rw [readGroups_spelled true head colons.parted (by omega),
      readGroups_of_ended _ colons]
    simp
  unfold readIpv6
  simp only [before, Nat.ne_of_lt short, ↓reduceIte, Bool.false_eq_true,
    readChar_self, Option.bind_eq_bind, Option.bind_some]
  cases Ipv6.ofList? _ <;> rfl

/-- An address written in groups is read back. -/
theorem readIpv6_of_spelled
    {address : Ipv6}
    {text rest : List Char}
    (written : address.Spelled text)
    (ended : Ended rest) :
    readIpv6 (text ++ rest) = some (address, rest) := by
  cases written with
  | whole =>
      have read :
          readGroups true (spelled true address.toList ++ rest) 8 =
            ⟨address.toList, false, rest⟩ := by
        rw [readGroups_spelled true _ ended.parted
            (Nat.le_of_eq address.length_toList),
          readGroups_of_ended _ ended]
        simp
      simp [readIpv6, read, address.length_toList, address.ofList?_toList]
  | shortened head tail count several shape =>
      have total :
          head.length + (count + tail.length) = 8 := by
        have length := address.length_toList
        rw [shape] at length
        simpa using length
      have read :
          readGroups true (spelled true tail ++ rest)
              (8 - (head.length + 1)) =
            ⟨tail, false, rest⟩ := by
        rw [readGroups_spelled true tail ended.parted (by omega),
          readGroups_of_ended _ ended]
        simp
      have zeros : 8 - head.length - tail.length = count := by
        omega
      rw [List.append_assoc, List.cons_append, List.cons_append,
        readIpv6_colons (by omega)]
      simp only [read, zeros, ← shape, address.ofList?_toList,
        Option.map_some]

/-- A group is put together from its two bytes. -/
theorem bytes_group (group : UInt16) :
    (group >>> 8).toUInt8.toUInt16 <<< 8 ||| group.toUInt8.toUInt16 =
      group := by
  apply UInt16.toNat_inj.mp
  have bounded := group.toNat_lt
  have low : group.toNat % 256 < 2 ^ 8 := Nat.mod_lt _ (by decide)
  have high : group.toNat / 256 % 256 = group.toNat / 256 := by
    omega
  have unshifted :
      (group.toNat / 256) <<< 8 % 65536 = (group.toNat / 256) <<< 8 := by
    rw [Nat.shiftLeft_eq]
    omega
  have joined := Nat.shiftLeft_add_eq_or_of_lt low (group.toNat / 256)
  simp only [UInt16.toNat_or, UInt16.toNat_shiftLeft, UInt8.toNat_toUInt16,
    UInt16.toNat_toUInt8, UInt16.toNat_shiftRight, UInt16.reduceToNat,
    Nat.reduceMod, Nat.reducePow, Nat.shiftRight_eq_div_pow, high, unshifted]
  rw [← joined, Nat.shiftLeft_eq]
  omega

/-- Two groups carry an IPv4 address where an address ends in one. -/
theorem Ipv6.toList_of_carried
    {address : Ipv6}
    {carried : Ipv4}
    (found : address.carriedIpv4? = some carried) :
    address.toList =
      List.replicate 5 0 ++ 0xffff :: carried.groups := by
  unfold carriedIpv4? at found
  split at found
  · next high low shape =>
      cases found
      rw [shape, Ipv4.groups, bytes_group, bytes_group]
      rfl
  · cases found

/-- An IPv4 address takes the room of two groups. -/
theorem readGroups_ipv4
    (isFirst : Bool)
    (address : Ipv4)
    {rest : List Char}
    (undigited : Undigited 10 rest)
    (room : Nat) :
    readGroups isFirst
        (separator isFirst ++ (address.text.toList ++ rest)) (room + 2) =
      ⟨address.groups, true, rest⟩ := by
  simp [readGroups, readSeparator_separator,
    readIpv4_text address undigited]

/-- Every IPv6 address is read as it is written. -/
theorem readIpv6_text
    (address : Ipv6)
    {rest : List Char}
    (ended : Ended rest) :
    readIpv6 (address.text.toList ++ rest) = some (address, rest) := by
  unfold Ipv6.text
  cases found : address.carriedIpv4? with
  | none =>
      exact readIpv6_of_spelled address.spelled_groupsText ended
  | some carried =>
      have written :
          ("::ffff:" ++ carried.text).toList ++ rest =
            spelled true [] ++ ':' :: ':' ::
              (separator true ++ (groupChars 0xffff ++
                (separator false ++ (carried.text.toList ++ rest)))) := by
        rw [String.toList_append, List.append_assoc]
        rfl
      have read :
          readGroups true
              (separator true ++ (groupChars 0xffff ++
                (separator false ++ (carried.text.toList ++ rest)))) 7 =
            ⟨0xffff :: carried.groups, true, rest⟩ := by
        have parted :
            Parted (separator false ++ (carried.text.toList ++ rest)) :=
          parted_cons (by decide) (by decide)
        rw [readGroups_group true _ 6 parted,
          readGroups_ipv4 false carried
            (ended.parted.undigited.mono (by decide)) 4]
      simp only [written]
      rw [readIpv6_colons (by decide)]
      simp only [List.length_nil, Nat.zero_add, Nat.reduceSub, read,
        List.nil_append]
      have shape := Ipv6.toList_of_carried found
      have zeros : 8 - (0xffff :: carried.groups).length = 5 := rfl
      rw [zeros, ← shape, address.ofList?_toList, Option.map_some]

/-! ## Socket addresses -/

/-- The digits of a port are read as the port. -/
theorem readPort_toDigits
    (port : UInt16)
    {rest : List Char}
    (undigited : Undigited 10 rest) :
    readPort (':' :: (Nat.toDigits 10 port.toNat ++ rest)) =
      some (port, rest) := by
  have read :
      readNumber .port (Nat.toDigits 10 port.toNat ++ rest) =
        some (port.toNat, rest) :=
    readNumber_toDigits (admits_port port) undigited
  simp [readPort, readChar_self, read]

/-- A scope behind a host, which is written when there is one. -/
def scopeChars (scope : UInt32) : List Char :=
  if scope = 0 then [] else '%' :: Nat.toDigits 10 scope.toNat

/-- A scope that is written is read, and one that is not written is zero. -/
theorem readScope_scopeChars
    (scope : UInt32)
    (rest : List Char) :
    readScope (scopeChars scope ++ ']' :: rest) =
      (']' :: rest, scope) := by
  unfold scopeChars
  split
  · next absent =>
      simp [readScope, readChar, absent]
  · have read :
        readNumber .scope
            (Nat.toDigits 10 scope.toNat ++ ']' :: rest) =
          some (scope.toNat, ']' :: rest) :=
      readNumber_toDigits (admits_scope scope)
        (undigited_cons.mpr (by decide))
    simp [readScope, readChar_self, read]

/-- What follows an IPv6 host in brackets ends it. -/
theorem ended_scopeChars
    (scope : UInt32)
    (rest : List Char) :
    Ended (scopeChars scope ++ ']' :: rest) := by
  unfold scopeChars
  split
  · exact ended_cons (by decide) (by decide) (by decide)
  · exact ended_cons (by decide) (by decide) (by decide)

namespace SocketAddress

/-- An IPv4 socket address is its host, a colon and its port. -/
theorem toList_text_v4
    (host : Ipv4)
    (port : UInt16) :
    (text ⟨.v4 host, port, 0⟩).toList =
      host.text.toList ++ ':' :: Nat.toDigits 10 port.toNat := by
  simp [text]

/-- An IPv6 socket address is its host in brackets, with its scope, a colon and its port. -/
theorem toList_text_v6
    (host : Ipv6)
    (port : UInt16)
    (scope : UInt32) :
    (text ⟨.v6 host, port, scope⟩).toList =
      '[' :: (host.text.toList ++
        (scopeChars scope ++
          ']' :: ':' :: Nat.toDigits 10 port.toNat)) := by
  by_cases absent : scope = 0 <;>
    simp [text, scopeChars, absent]

/--
Every socket address is read as it is written.  The text of an IPv4 host has no
place for a scope.
-/
theorem parse?_text
    {address : SocketAddress}
    (unscoped : address.host.isV6 = false → address.scope = 0) :
    parse? address.text = some address := by
  obtain ⟨host, port, scope⟩ := address
  have portRead := readPort_toDigits port (undigited_nil 10)
  rw [List.append_nil] at portRead
  cases host with
  | v4 host =>
      obtain rfl : scope = 0 := unscoped rfl
      have hostRead :
          readIpv4
              (host.text.toList ++ ':' :: Nat.toDigits 10 port.toNat) =
            some (host, ':' :: Nat.toDigits 10 port.toNat) :=
        readIpv4_text host (undigited_cons.mpr (by decide))
      have read :
          readSocketIpv4 (text ⟨.v4 host, port, 0⟩).toList =
            some (⟨.v4 host, port, 0⟩, []) := by
        rw [toList_text_v4]
        simp [readSocketIpv4, hostRead, portRead]
      simp [parse?, read, Reading.complete?]
  | v6 host =>
      have other :
          readSocketIpv4 (text ⟨.v6 host, port, scope⟩).toList = none := by
        rw [toList_text_v6]
        have bracketed (rest : List Char) : readIpv4 ('[' :: rest) = none :=
          (parted_cons (by decide) (by decide)).readIpv4
        simp [readSocketIpv4, bracketed]
      have read :
          readSocketIpv6 (text ⟨.v6 host, port, scope⟩).toList =
            some (⟨.v6 host, port, scope⟩, []) := by
        rw [toList_text_v6]
        simp [readSocketIpv6, readChar_self,
          readIpv6_text host (ended_scopeChars scope _),
          readScope_scopeChars, portRead]
      simp [parse?, other, read, Reading.complete?]

end SocketAddress

end PluggableHost.Net
