import Mathlib.Data.List.TakeWhile
import PluggableHost.Net.Url.Reader
import PluggableHost.Proofs.Net.Path
import PluggableHost.Proofs.Net.Spelling

namespace PluggableHost.Net

open PluggableHost.Os PluggableHost.Text

/-!
# Authorities of URLs

An address, spelled in any of the ways in which the text of a socket or of a URL spells
it, is the host that is read from it, and the port behind it is the port.  Whatever
path follows, it begins with a slash and holds nothing that could end it, so that it
takes no part in what is read in front of it.
-/

variable
  {toAscii : String → Option String}
  {mark : Char}
  {text host path : List Char}

/-- A visible character that stays within the authority. -/
structure IsInner (character : Char) : Prop where
  visible : 32 < character.toNat ∧ character.toNat < 127
  within : endsAuthority character = false
  noCredentials : character ≠ '@'

/-- A text is read as an address where the host of a URL stands. -/
structure Spells
    (toAscii : String → Option String)
    (host : List Char)
    (address : IpAddress) : Prop where
  some : host ≠ []
  inner : ∀ character ∈ host, IsInner character
  /-- No colon in it is taken for the one in front of the port. -/
  uncut :
    ∀ rest,
      cutPort false (host ++ rest) =
        (host ++ (cutPort false rest).1, (cutPort false rest).2)
  read : hostOf? toAscii host = .some (.address address)

/-- A port as it is written behind a host. -/
def portChars : Option UInt16 → List Char
  | none => []
  | some port => ':' :: Nat.toDigits 10 port.toNat

/-- A digit is not another character that is none. -/
theorem ne_of_isDigitOf
    {base : Nat}
    {character other : Char}
    (digit : isDigitOf base character = true)
    (none : isDigitOf base other = false) :
    character ≠ other := by
  rintro rfl
  exact Bool.false_ne_true (none.symm.trans digit)

/-- A digit stays within the authority. -/
theorem inner_of_isDigitOf
    {character : Char}
    (digit : isDigitOf 16 character = true) :
    IsInner character where
  visible := by
    have code := code_of_isDigitOf (by decide) digit
    omega
  within := by
    simp only [endsAuthority, Url.isSeparator, Bool.or_eq_false_iff,
      decide_eq_false_iff_not]
    exact
      ⟨⟨⟨ne_of_isDigitOf digit (by decide), ne_of_isDigitOf digit (by decide)⟩,
        ne_of_isDigitOf digit (by decide)⟩, ne_of_isDigitOf digit (by decide)⟩
  noCredentials := ne_of_isDigitOf digit (by decide)

/-! ## Parts of a text -/

/-- A text without the mark is not cut. -/
theorem cutAt_of_not_mem
    (absent : mark ∉ text) :
    cutAt mark text = (text, none) := by
  have all : text.dropWhile (fun character => character ≠ mark) = [] := by
    rw [List.dropWhile_eq_nil_iff]
    intro character member
    rw [decide_eq_true_eq]
    rintro rfl
    exact absent member
  rw [cutAt, all]

/-- An authority without an at sign has no credentials. -/
theorem cutCredentials_of_not_mem
    (absent : '@' ∉ text) :
    cutCredentials text = ([], text) := by
  rw [cutCredentials, cutAt_of_not_mem (mt List.mem_reverse.mp absent)]

/-- Nothing is cut off from visible characters. -/
theorem cleaned_of_visible
    (visible : ∀ character ∈ text, 32 < character.toNat) :
    cleaned text = text := by
  have untrimmed :
      ∀ text : List Char, (∀ character ∈ text, 32 < character.toNat) →
        text.dropWhile isTrimmed = text := by
    rintro (- | ⟨first, rest⟩) visible
    · rfl
    · have above := visible first List.mem_cons_self
      have stays : isTrimmed first = false :=
        decide_eq_false (by omega)
      rw [List.dropWhile_cons, stays, if_neg Bool.false_ne_true]
  have kept : text.filter (fun character => !Url.isDropped character) = text := by
    refine List.filter_eq_self.mpr fun character member => ?_
    have above := visible character member
    simp only [Url.isDropped, Bool.not_or, Bool.and_eq_true,
      Bool.not_eq_true', decide_eq_false_iff_not]
    refine ⟨⟨?_, ?_⟩, ?_⟩ <;> rintro rfl <;> exact absurd above (by decide)
  unfold cleaned
  dsimp only
  rw [untrimmed text visible,
    untrimmed text.reverse
      (fun character member => visible character (List.mem_reverse.mp member)),
    List.reverse_reverse, kept]

/-- The scheme of a protocol is read as that protocol. -/
theorem readScheme_scheme
    (protocol : Protocol)
    (rest : List Char) :
    readScheme (protocol.scheme.toList ++ ':' :: rest) =
      some (protocol, rest) := by
  cases protocol <;> rfl

/-- An authority ends where a path begins. -/
theorem span_authority
    (inner : ∀ character ∈ text, endsAuthority character = false)
    (rooted : path = [] ∨ path.head? = some '/') :
    ((text ++ path).takeWhile fun character => !endsAuthority character) =
        text ∧
      ((text ++ path).dropWhile fun character => !endsAuthority character) =
        path := by
  have all :
      ∀ character ∈ text, (!endsAuthority character) = true :=
    fun character member => by rw [inner character member]; rfl
  rw [List.takeWhile_append_of_pos all, List.dropWhile_append_of_pos all]
  rcases rooted with rfl | slash
  · exact ⟨List.append_nil _, rfl⟩
  · obtain ⟨rest, rfl⟩ := List.head?_eq_some_iff.mp slash
    exact ⟨List.append_nil _, rfl⟩

/-! ## Ports -/

/-- The digits of a number are read as the number. -/
theorem numberOf?_toDigits
    {base : Nat}
    (proper : 1 < base)
    (known : base ≤ 16)
    (number : Nat) :
    numberOf? base (Nat.toDigits base number) = some number := by
  have digits : (Nat.toDigits base number).all (isDigitOf base) = true :=
    List.all_eq_true.mpr fun _ => isDigitOf_of_mem_toDigits proper known
  rw [numberOf?, if_pos digits, digitsValue_toDigits proper known]

/-- A port is read as it is written, but for that of the scheme. -/
theorem portOf?_cutPort
    (protocol : Protocol)
    (port : Option UInt16) :
    portOf? protocol (cutPort false (portChars port)).2 =
      some (port.filter fun port => port ≠ protocol.defaultPort) := by
  cases port with
  | none => rfl
  | some port =>
      have bound := port.toNat_lt
      have same : port.toNat.toUInt16 = port := by simp
      change portOf? protocol (some (Nat.toDigits 10 port.toNat)) = _
      unfold portOf?
      split
      · rename_i absent
        cases absent
      · rename_i empty
        exact absurd (Option.some.inj empty) Nat.toDigits_ne_nil
      · rename_i digits _ written
        obtain rfl := Option.some.inj written
        rw [numberOf?_toDigits (by decide) (by decide)]
        dsimp only
        rw [if_neg (by omega), same]
        by_cases default : port = protocol.defaultPort <;>
          simp [default, Option.filter]

/-- A port alone leaves no host before it. -/
theorem cutPort_portChars
    (port : Option UInt16) :
    (cutPort false (portChars port)).1 = [] := by
  cases port <;> rfl

/-- The characters of a port stay within the authority. -/
theorem inner_portChars
    {port : Option UInt16}
    {character : Char}
    (member : character ∈ portChars port) :
    IsInner character := by
  cases port with
  | none => exact absurd member List.not_mem_nil
  | some port =>
      rcases List.mem_cons.mp member with rfl | digit
      · exact ⟨by decide, by decide, by decide⟩
      · exact inner_of_isDigitOf
          (isDigitOf_mono (by decide)
            (isDigitOf_of_mem_toDigits (by decide) (by decide) digit))

/-! ## Hosts in brackets -/

/-- A character that the text of an address may hold. -/
def IsAddressMark (character : Char) : Prop :=
  isDigitOf 16 character = true ∨ character = ':' ∨ character = '.'

/-- No character of an address is another one. -/
theorem IsAddressMark.ne
    {character other : Char}
    (known : IsAddressMark character)
    (none : isDigitOf 16 other = false ∧ other ≠ ':' ∧ other ≠ '.') :
    character ≠ other := by
  rcases known with digit | rfl | rfl
  · exact ne_of_isDigitOf digit none.1
  · exact none.2.1.symm
  · exact none.2.2.symm

/-- The characters of an address stay within the authority. -/
theorem IsAddressMark.inner
    {character : Char}
    (known : IsAddressMark character) :
    IsInner character := by
  rcases known with digit | rfl | rfl
  · exact inner_of_isDigitOf digit
  · exact ⟨by decide, by decide, by decide⟩
  · exact ⟨by decide, by decide, by decide⟩

/-- A digit may stand in an address. -/
theorem isAddressMark_of_mem_toDigits
    {base number : Nat}
    (proper : 1 < base)
    (known : base ≤ 16)
    {character : Char}
    (member : character ∈ Nat.toDigits base number) :
    IsAddressMark character :=
  .inl (isDigitOf_mono known (isDigitOf_of_mem_toDigits proper known member))

/-- An IPv4 address is written in digits and points. -/
theorem Ipv4.digit_or_point
    {address : Ipv4}
    {character : Char}
    (member : character ∈ address.text.toList) :
    isDigitOf 10 character = true ∨ character = '.' := by
  rw [address.toList_text] at member
  simp only [List.mem_append, List.mem_cons] at member
  rcases member with digit | rfl | digit | rfl | digit | rfl | digit
  all_goals first
    | exact .inr rfl
    | exact .inl (isDigitOf_of_mem_toDigits (by decide) (by decide) digit)

/-- An IPv4 address is written in characters an address may hold. -/
theorem Ipv4.isAddressMark_of_mem_text
    {address : Ipv4}
    {character : Char}
    (member : character ∈ address.text.toList) :
    IsAddressMark character :=
  (digit_or_point member).imp (isDigitOf_mono (by decide)) .inr

/-- Groups are spelled in characters an address may hold. -/
theorem isAddressMark_of_mem_spelled
    {isFirst : Bool}
    {groups : List UInt16}
    {character : Char}
    (member : character ∈ spelled isFirst groups) :
    IsAddressMark character := by
  induction groups generalizing isFirst with
  | nil => exact absurd member List.not_mem_nil
  | cons group rest inductionHypothesis =>
      simp only [spelled, List.mem_append] at member
      rcases member with (colon | digit) | later
      · cases isFirst with
        | true => exact absurd colon List.not_mem_nil
        | false => exact .inr (.inl (List.mem_singleton.mp colon))
      · exact isAddressMark_of_mem_toDigits (by decide) (by decide) digit
      · exact inductionHypothesis later

/-- However an IPv6 address is spelled, its characters are those an address may hold. -/
theorem Ipv6.Spelled.isAddressMark
    {address : Ipv6}
    (written : address.Spelled text)
    {character : Char}
    (member : character ∈ text) :
    IsAddressMark character := by
  cases written with
  | whole => exact isAddressMark_of_mem_spelled member
  | shortened head tail count several shape =>
      simp only [List.mem_append, List.mem_cons] at member
      rcases member with earlier | rfl | rfl | later
      · exact isAddressMark_of_mem_spelled earlier
      · exact .inr (.inl rfl)
      · exact .inr (.inl rfl)
      · exact isAddressMark_of_mem_spelled later

/-- An IPv6 address is written in characters an address may hold. -/
theorem Ipv6.isAddressMark_of_mem_text
    {address : Ipv6}
    {character : Char}
    (member : character ∈ address.text.toList) :
    IsAddressMark character := by
  unfold Ipv6.text at member
  cases found : address.carriedIpv4? with
  | none =>
      rw [found] at member
      exact address.spelled_groupsText.isAddressMark member
  | some carried =>
      rw [found] at member
      dsimp only at member
      rw [String.toList_append] at member
      rcases List.mem_append.mp member with front | back
      · have marks :
            ("::ffff:".toList.all fun mark =>
              isDigitOf 16 mark || mark = ':' || mark = '.') = true := by
          decide
        have known := List.all_eq_true.mp marks character front
        simpa only [IsAddressMark, Bool.or_eq_true, decide_eq_true_eq,
          or_assoc] using known
      · exact Ipv4.isAddressMark_of_mem_text back

/-- The first colon behind the bracket that closes is found. -/
theorem cutPort_bracketed
    (inside : ∀ character ∈ text, IsAddressMark character)
    (rest : List Char) :
    cutPort true (text ++ ']' :: rest) =
      (text ++ ']' :: (cutPort false rest).1, (cutPort false rest).2) := by
  induction text with
  | nil => rfl
  | cons character others inductionHypothesis =>
      obtain ⟨first, later⟩ := List.forall_mem_cons.mp inside
      have opens : character ≠ '[' := first.ne (by decide)
      have closes : character ≠ ']' := first.ne (by decide)
      simp only [List.cons_append, cutPort, Bool.not_true, Bool.and_false,
        Bool.false_eq_true, if_false, opens, closes, ne_eq,
        not_false_eq_true, decide_true, decide_false, Bool.and_true,
        Bool.false_or, inductionHypothesis later]

/-- An IPv6 address in brackets is a host. -/
theorem spells_bracketed
    {address : Ipv6}
    (inside : ∀ character ∈ text, IsAddressMark character)
    (read : readIpv6 text = some (address, [])) :
    Spells toAscii ('[' :: (text ++ [']'])) (.v6 address) where
  some := by simp
  inner := by
    intro character member
    simp only [List.mem_cons, List.mem_append, List.not_mem_nil,
      or_false] at member
    rcases member with rfl | known | rfl
    · exact ⟨by decide, by decide, by decide⟩
    · exact (inside character known).inner
    · exact ⟨by decide, by decide, by decide⟩
  uncut := by
    intro rest
    have cut := cutPort_bracketed inside rest
    simp only [List.cons_append, List.append_assoc, List.nil_append]
    rw [cutPort, if_neg (by decide)]
    change
      ('[' :: (cutPort true (text ++ ']' :: rest)).1,
        (cutPort true (text ++ ']' :: rest)).2) = _
    rw [cut]
  read := by
    simp [hostOf?, read, Reading.complete?]

/-- Where the text ends, no address goes on. -/
theorem ended_nil : Ended [] where
  parted := ⟨undigited_nil 16, by simp⟩
  groupless := fun _ shape => by cases shape

/-- An IPv6 address is read from the text of a socket, where it may carry an IPv4 address. -/
theorem spells_text
    (toAscii : String → Option String)
    (address : Ipv6) :
    Spells toAscii ('[' :: (address.text.toList ++ [']'])) (.v6 address) := by
  have read := readIpv6_text address ended_nil
  rw [List.append_nil] at read
  exact spells_bracketed (fun _ => Ipv6.isAddressMark_of_mem_text) read

/-- An IPv6 address in brackets is read as the host it is. -/
theorem spells_groupsText
    (toAscii : String → Option String)
    (address : Ipv6) :
    Spells toAscii ('[' :: (address.groupsText.toList ++ [']']))
      (.v6 address) := by
  have read := readIpv6_of_spelled address.spelled_groupsText ended_nil
  rw [List.append_nil] at read
  exact
    spells_bracketed
      (fun _ => address.spelled_groupsText.isAddressMark) read

/-! ## Hosts of four numbers -/

/-- Bytes without a percent sign are decoded to themselves. -/
theorem percentDecoded_of_not_mem
    {bytes : Bytes}
    (absent : 0x25 ∉ bytes) :
    percentDecoded bytes = bytes := by
  fun_induction percentDecoded bytes with
  | case1 | case2 => exact absurd List.mem_cons_self absent
  | case3 byte rest _ inductionHypothesis =>
      rw [inductionHypothesis fun later =>
        absent (List.mem_cons_of_mem byte later)]
  | case4 => rfl

/-- The numbers of an address, as they are written. -/
def Ipv4.numerals (address : Ipv4) : List (List Char) :=
  address.octets.map fun octet => Nat.toDigits 10 octet.toNat

/-- No digit is a point. -/
theorem point_not_mem_toDigits (number : Nat) :
    '.' ∉ Nat.toDigits 10 number := by
  intro member
  have digit := isDigitOf_of_mem_toDigits (by decide) (by decide) member
  exact absurd digit (by decide)

/-- The text of an IPv4 address falls into its four numerals at the points. -/
theorem splitOn_text (address : Ipv4) :
    address.text.toList.splitOn '.' = address.numerals := by
  rw [address.toList_text,
    List.splitOn_append_cons_self_of_not_mem (point_not_mem_toDigits _),
    List.splitOn_append_cons_self_of_not_mem (point_not_mem_toDigits _),
    List.splitOn_append_cons_self_of_not_mem (point_not_mem_toDigits _),
    List.splitOn_eq_singleton (point_not_mem_toDigits _)]
  rfl

/-- The parts of the text of an IPv4 address are its four numerals. -/
theorem partsOf_text (address : Ipv4) :
    partsOf address.text.toList = address.numerals := by
  have last : address.numerals.getLast? ≠ some [] := by
    simp [Ipv4.numerals, Ipv4.octets, Nat.toDigits_ne_nil]
  rw [partsOf, splitOn_text, if_neg]
  simp [last]

/--
A number without a prefix is read in base ten: only a zero that more digits follow would
be a prefix.
-/
theorem ipv4Number?_toDigits (number : Nat) :
    ipv4Number? (Nat.toDigits 10 number) = some number := by
  have read := numberOf?_toDigits (show 1 < 10 by decide) (by decide) number
  have first :
      1 < (Nat.toDigits 10 number).length →
        (Nat.toDigits 10 number).head? ≠ some '0' :=
    head?_toDigits_of_length (by decide)
  have some : Nat.toDigits 10 number ≠ [] := Nat.toDigits_ne_nil
  revert read first some
  generalize Nat.toDigits 10 number = digits
  intro read first some
  unfold ipv4Number?
  split
  · exact absurd rfl some
  · exact absurd rfl (first (by simp))
  · exact absurd rfl (first (by simp))
  · exact absurd rfl (first (by simp))
  · exact read

/-- The text of an IPv4 address ends in a number. -/
theorem endsInNumber_text (address : Ipv4) :
    endsInNumber address.text.toList = true := by
  have last :
      address.numerals.getLast? =
        some (Nat.toDigits 10 address.fourth.toNat) := rfl
  rw [endsInNumber, partsOf_text, last]
  dsimp only
  rw [ipv4Number?_toDigits, Option.isSome_some, Bool.or_true]

/-- Four numbers are the four bytes of an address. -/
theorem ipv4OfNumbers?_octets (address : Ipv4) :
    ipv4OfNumbers? (address.octets.map UInt8.toNat) = some address := by
  obtain ⟨first, second, third, fourth⟩ := address
  have bounds :=
    And.intro (And.intro first.toNat_lt second.toNat_lt)
      (And.intro third.toNat_lt fourth.toNat_lt)
  have upper :
      ([first.toNat, second.toNat, third.toNat].any
        fun number => number > 255) = false := by
    simp only [List.any_cons, List.any_nil, Bool.or_false,
      Bool.or_eq_false_iff, decide_eq_false_iff_not]
    omega
  have last : ¬ fourth.toNat ≥ 256 := by omega
  have value :
      Ipv4.ofNat
          ((((0 * 256 + first.toNat) * 256 + second.toNat) * 256 +
            third.toNat) * 256 + fourth.toNat) =
        ⟨first, second, third, fourth⟩ := by
    simp only [Ipv4.ofNat, Ipv4.mk.injEq, ← UInt8.toNat_inj,
      Nat.toUInt8, UInt8.toNat_ofNat']
    omega
  have shape :
      ipv4OfNumbers?
          [first.toNat, second.toNat, third.toNat, fourth.toNat] =
        if decide (4 > 4) ||
            [first.toNat, second.toNat, third.toNat].any
              (fun number => number > 255) ||
            decide (fourth.toNat ≥ 256) then none
        else
          some
            (.ofNat
              ((((0 * 256 + first.toNat) * 256 + second.toNat) * 256 +
                third.toNat) * 256 + fourth.toNat)) :=
    rfl
  rw [value, upper, decide_eq_false last] at shape
  exact shape

/-- A host written as an IPv4 address is that address. -/
theorem ipv4OfName?_text (address : Ipv4) :
    ipv4OfName? address.text.toList = some address := by
  have read :
      address.numerals.mapM ipv4Number? =
        some (address.octets.map UInt8.toNat) := by
    simp [Ipv4.numerals, Ipv4.octets, ipv4Number?_toDigits]
  rw [ipv4OfName?, partsOf_text, read]
  exact ipv4OfNumbers?_octets address

/-- A decimal digit has no lower case but itself. -/
theorem toLower_of_isDigitOf
    {character : Char}
    (digit : isDigitOf 10 character = true) :
    character.toLower = character := by
  have below : character.val.toNat < 65 := by
    have code := code_of_isDigitOf (by decide) digit
    change character.toNat < 65
    omega
  unfold Char.toLower
  rw [dif_neg]
  rintro ⟨above, -⟩
  exact Nat.not_le_of_lt below (UInt32.le_iff_toNat_le.mp above)

/--
Four numbers are a name of ASCII that encodes nothing, since a part that does begins
with a letter.
-/
theorem isPlainName_text (address : Ipv4) :
    isPlainName address.text.toList = true := by
  refine Bool.and_eq_true_iff.mpr
    ⟨List.all_eq_true.mpr fun character member => ?_,
      List.all_eq_true.mpr fun part member => ?_⟩
  · have visible := (Ipv4.isAddressMark_of_mem_text member).inner.visible
    exact decide_eq_true (by omega)
  · rw [splitOn_text] at member
    obtain ⟨octet, -, rfl⟩ := List.mem_map.mp member
    refine decide_eq_true fun encodes => ?_
    have letter : 'x' ∈ ((Nat.toDigits 10 octet.toNat).take 4).map Char.toLower := by
      rw [encodes]
      exact List.mem_cons_self
    obtain ⟨digit, inside, lower⟩ := List.mem_map.mp letter
    have known :=
      isDigitOf_of_mem_toDigits (by decide) (by decide)
        (List.mem_of_mem_take inside)
    rw [toLower_of_isDigitOf known] at lower
    exact ne_of_isDigitOf known (by decide) lower

/-- A name of digits and points is what it is in ASCII, and no character of it is forbidden. -/
theorem asciiName?_text
    (toAscii : String → Option String)
    (address : Ipv4) :
    asciiName? toAscii (String.ofList address.text.toList) =
        some address.text.toList ∧
      address.text.toList.any isForbidden = false := by
  constructor
  · have lower :
        address.text.toList.map Char.toLower = address.text.toList := by
      refine List.map_id' _ |>.symm.trans ?_ |>.symm
      refine List.map_congr_left fun character member => ?_
      rcases Ipv4.digit_or_point member with digit | rfl
      · exact (toLower_of_isDigitOf digit).symm
      · rfl
    rw [asciiName?, String.toList_ofList, isPlainName_text, if_pos rfl, lower]
  · refine List.any_eq_false.mpr fun character member => ?_
    have visible := (Ipv4.isAddressMark_of_mem_text member).inner.visible
    have others :
        ("#/:<>?@[\\]^|%".toList.all fun other =>
          !isDigitOf 10 other && other ≠ '.') = true := by
      decide
    have absent : character ∉ "#/:<>?@[\\]^|%".toList := by
      intro forbidden
      have other := List.all_eq_true.mp others character forbidden
      rw [Bool.and_eq_true, Bool.not_eq_true', decide_eq_true_eq] at other
      rcases Ipv4.digit_or_point member with digit | point
      · exact Bool.false_ne_true (other.1.symm.trans digit)
      · exact other.2 point
    simp only [isForbidden, Bool.or_eq_true, decide_eq_true_eq,
      List.contains_iff_mem, not_or]
    exact ⟨⟨by omega, by omega⟩, absent⟩

/-- The text of an IPv4 address names that address, whatever names are mapped to. -/
theorem hostOfName?_text
    (toAscii : String → Option String)
    (address : Ipv4) :
    hostOfName? toAscii address.text.toList =
      some (.address (.v4 address)) := by
  have ascii :
      ∀ character ∈ address.text.toList, character.toNat < 128 := by
    intro character member
    have visible := (Ipv4.isAddressMark_of_mem_text member).inner.visible
    omega
  have unescaped :
      0x25 ∉ Bytes.ofText (String.ofList address.text.toList) := by
    intro percent
    rw [ofText_of_ascii ascii] at percent
    obtain ⟨character, member, code⟩ := List.mem_map.mp percent
    have known := Ipv4.isAddressMark_of_mem_text member
    have same : character.toNat = '%'.toNat :=
      (toNat_toUInt8 (ascii character member)).symm.trans
        (congrArg UInt8.toNat code)
    exact known.ne (by decide) (Char.toNat_inj.mp same)
  obtain ⟨name, allowed⟩ := asciiName?_text toAscii address
  have some : address.text.toList.isEmpty = false := by
    rw [address.toList_text]
    simp [Nat.toDigits_ne_nil]
  unfold hostOfName?
  rw [percentDecoded_of_not_mem unescaped, lossy_ofText ascii]
  simp only [name, Option.bind_eq_bind, Option.bind_some, some, allowed,
    Bool.or_self, Bool.false_eq_true, if_false, endsInNumber_text, if_true,
    ipv4OfName?_text]
  rfl

/-- A host without brackets goes up to the first colon. -/
theorem cutPort_unbracketed
    (plain : ∀ character ∈ text, character ≠ ':' ∧ character ≠ '[')
    (rest : List Char) :
    cutPort false (text ++ rest) =
      (text ++ (cutPort false rest).1, (cutPort false rest).2) := by
  induction text with
  | nil => rfl
  | cons character others inductionHypothesis =>
      obtain ⟨⟨noColon, opens⟩, later⟩ := List.forall_mem_cons.mp plain
      simp only [List.cons_append, cutPort, noColon, opens, decide_false,
        Bool.false_and, Bool.or_false, Bool.false_eq_true, if_false,
        inductionHypothesis later]

/-- An IPv4 address is read as it is written. -/
theorem spells_ipv4
    (toAscii : String → Option String)
    (address : Ipv4) :
    Spells toAscii address.text.toList (.v4 address) where
  some := by
    rw [address.toList_text]
    simp [Nat.toDigits_ne_nil]
  inner := fun _ member => (Ipv4.isAddressMark_of_mem_text member).inner
  uncut := by
    refine cutPort_unbracketed fun character member => ?_
    have known := Ipv4.isAddressMark_of_mem_text member
    refine ⟨?_, known.ne (by decide)⟩
    rcases Ipv4.digit_or_point member with digit | rfl
    · exact ne_of_isDigitOf digit (by decide)
    · decide
  read := by
    unfold hostOf?
    split
    · rename_i inside shape
      have known :=
        Ipv4.isAddressMark_of_mem_text (shape ▸ List.mem_cons_self)
      exact absurd rfl (known.ne (by decide))
    · exact hostOfName?_text toAscii address

/-! ## URLs -/

/-- The encoding of no bytes is the empty text. -/
theorem percentEncoded_nil (marks : String) :
    percentEncoded marks [] = "" := by
  rw [percentEncoded, toList_toUTF8, String.toList_ofList]
  rfl

/-- An address is read where it is spelled, whatever port and path follow it. -/
theorem read?_of_spells
    {address : IpAddress}
    (spells : Spells toAscii host address)
    (protocol : Protocol)
    (port : Option UInt16)
    (rooted : path = [] ∨ path.head? = some '/')
    (plain : ∀ character ∈ path, Url.IsPlain character) :
    Location.read? toAscii
        (String.ofList
          (protocol.scheme.toList ++
            ':' :: '/' :: '/' :: (host ++ portChars port ++ path))) =
      some
        { protocol
          host := .address address
          port := port.filter fun port => port ≠ protocol.defaultPort
          path := Url.pathOf (String.ofList path) } := by
  have inner :
      ∀ character ∈ host ++ portChars port, IsInner character := by
    intro character member
    exact (List.mem_append.mp member).elim (spells.inner character)
      inner_portChars
  have visible :
      ∀ character ∈
          protocol.scheme.toList ++
            ':' :: '/' :: '/' :: (host ++ portChars port ++ path),
        32 < character.toNat := by
    intro character member
    simp only [List.mem_append, List.mem_cons] at member
    rcases member with scheme | rfl | rfl | rfl | (socket | socket) | path
    · have letters :
          (protocol.scheme.toList.all fun letter => 32 < letter.toNat) =
            true := by
        cases protocol <;> decide
      exact of_decide_eq_true (List.all_eq_true.mp letters character scheme)
    · decide
    · decide
    · decide
    · exact (spells.inner character socket).visible.1
    · exact (inner_portChars socket).visible.1
    · exact (plain character path).bounds.1
  have slashes :
      ('/' :: '/' :: (host ++ portChars port ++ path)).dropWhile
          Url.isSeparator =
        host ++ portChars port ++ path := by
    obtain ⟨first, rest, rfl⟩ := List.exists_cons_of_ne_nil spells.some
    have within := (spells.inner first List.mem_cons_self).within
    have stays : Url.isSeparator first = false :=
      (Bool.or_eq_false_iff.mp (Bool.or_eq_false_iff.mp within).1).1
    exact List.dropWhile_cons_of_neg (Bool.eq_false_iff.mp stays)
  obtain ⟨authority, rest⟩ :=
    span_authority (fun character member => (inner character member).within) rooted
  have socket : '@' ∉ host ++ portChars port :=
    fun member => (inner '@' member).noCredentials rfl
  have fragmentless : '#' ∉ path :=
    fun member => absurd (plain '#' member).2 (by decide)
  have queryless : '?' ∉ path :=
    fun member => absurd (plain '?' member).2 (by decide)
  have cut := spells.uncut (portChars port)
  rw [cutPort_portChars, List.append_nil] at cut
  unfold Location.read?
  simp only [String.toList_ofList, cleaned_of_visible visible,
    readScheme_scheme, Option.bind_eq_bind, Option.bind_some, slashes,
    authority, rest, cutCredentials_of_not_mem socket, cut, spells.read,
    portOf?_cutPort, cutAt_of_not_mem fragmentless,
    cutAt_of_not_mem queryless, cutAt_of_not_mem List.not_mem_nil,
    percentEncoded_nil, Option.getD_none, Option.map_none]
  rfl

/-- A host as the text of a socket writes it. -/
def socketHost : IpAddress → String
  | .v4 address => address.text
  | .v6 address => "[" ++ address.text ++ "]"

/-- The host of a socket address is read back as that host. -/
theorem spells_socketHost
    (toAscii : String → Option String)
    (host : IpAddress) :
    Spells toAscii (socketHost host).toList host := by
  cases host with
  | v4 address => exact spells_ipv4 toAscii address
  | v6 address => simpa [socketHost] using spells_text toAscii address

/-- The host of a URL is read back as that host. -/
theorem spells_hostText
    (toAscii : String → Option String)
    (host : IpAddress) :
    Spells toAscii (Url.hostText host).toList host := by
  cases host with
  | v4 address => exact spells_ipv4 toAscii address
  | v6 address =>
      simpa [Url.hostText] using spells_groupsText toAscii address

/-- A socket address is its host followed by its port. -/
theorem toList_text_socket
    (host : IpAddress)
    (port : UInt16) :
    (SocketAddress.text { host, port }).toList =
      (socketHost host).toList ++ portChars (some port) := by
  cases host with
  | v4 address =>
      rw [SocketAddress.toList_text_v4]
      rfl
  | v6 address =>
      simp [SocketAddress.toList_text_v6, socketHost, scopeChars, portChars]

/-- Scheme and socket make a URL, whose path is a slash. -/
theorem read?_socket
    (toAscii : String → Option String)
    (protocol : Protocol)
    (host : IpAddress)
    (port : UInt16) :
    Location.read? toAscii
        (protocol.scheme ++ "://" ++ SocketAddress.text { host, port }) =
      some
        { protocol
          host := .address host
          port :=
            (some port).filter fun port => port ≠ protocol.defaultPort } := by
  have shape :
      protocol.scheme ++ "://" ++ SocketAddress.text { host, port } =
        String.ofList
          (protocol.scheme.toList ++
            ':' :: '/' :: '/' ::
              ((socketHost host).toList ++ portChars (some port) ++ [])) :=
    String.toList_inj.mp (by simp [toList_text_socket])
  rw [shape,
    read?_of_spells (spells_socketHost toAscii host) protocol (some port)
      (.inl rfl) fun _ none => absurd none List.not_mem_nil]
  rfl

/-- The parts of the text of a URL. -/
theorem toList_text_url (url : Url) :
    url.text.toList =
      url.protocol.scheme.toList ++
        ':' :: '/' :: '/' ::
          ((Url.hostText url.host).toList ++ portChars url.port ++
            url.path.toList) := by
  obtain ⟨protocol, host, port, path⟩ := url
  cases port <;> simp [Url.text, Url.authority, portChars]

/-- The URL of a path on a socket is read as what it is. -/
theorem read?_text
    (toAscii : String → Option String)
    (protocol : Protocol)
    (host : IpAddress)
    (port : UInt16)
    (path : String) :
    let url := Url.ofSocket protocol host port path
    Location.read? toAscii url.text = some url.location := by
  intro url
  have rooted : url.path.toList.head? = some '/' := Url.head?_pathOf path
  have plain : ∀ character ∈ url.path.toList, Url.IsPlain character :=
    fun _ => Url.plain_of_mem_pathOf
  have reduced :
      (url.port.filter fun port => port ≠ protocol.defaultPort) =
        url.port := by
    simp only [url, Url.ofSocket]
    by_cases default : port = protocol.defaultPort <;>
      simp [default, Option.filter]
  have stays : Url.pathOf url.path = url.path := Url.pathOf_pathOf path
  have read :=
    read?_of_spells (spells_hostText toAscii host) protocol url.port
      (.inr rooted) plain
  rw [reduced, String.ofList_toList, stays] at read
  rw [← String.ofList_toList (s := url.text), toList_text_url]
  exact read

end PluggableHost.Net
