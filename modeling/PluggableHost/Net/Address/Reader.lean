import PluggableHost.Net.Address
import PluggableHost.Text.Digits

namespace PluggableHost.Net

open PluggableHost.Text

/-!
# Reading addresses

Readers of the address grammar. Each takes what it understands from the front
of the text and returns the rest, and a text is an address only when nothing is
left over. Decimal parts have no leading zeros, so that no address has two
decimal spellings; groups and ports may have them.
-/

/-- What a reader understood, and the text after it. -/
abbrev Reading (α : Type) := α × List Char

/-- How a number may be written. -/
structure NumberShape where
  base : Nat
  /-- The largest number of digits, if there is one. -/
  width : Option Nat
  leadingZeros : Bool
  /-- Values from here on are refused. -/
  bound : Nat

/-- A byte in decimal form. -/
def NumberShape.octet : NumberShape := ⟨10, some 3, false, 256⟩

/-- A group in hexadecimal form. -/
def NumberShape.group : NumberShape := ⟨16, some 4, true, 65536⟩

/-- A port in decimal form. -/
def NumberShape.port : NumberShape := ⟨10, none, true, 65536⟩

/-- The number of a zone in decimal form. -/
def NumberShape.scope : NumberShape := ⟨10, none, true, Nat.pow 2 32⟩

/-- Read all digits at the front as one number of the given shape. -/
def readNumber (shape : NumberShape) (text : List Char) : Option (Reading Nat) :=
  let digits := text.takeWhile (isDigitOf shape.base)
  let rest := text.dropWhile (isDigitOf shape.base)
  let tooLong := shape.width.any fun width => width < digits.length
  let paddedWithZeros := !shape.leadingZeros && digits.length > 1 && digits.head? == some '0'
  let value := digitsValue shape.base digits
  if digits.isEmpty || tooLong || paddedWithZeros || value ≥ shape.bound then none
  else some (value, rest)

/-- Read the one character that is expected. -/
def readChar (expected : Char) : List Char → Option (List Char)
  | character :: rest => if character = expected then some rest else none
  | [] => none

/-- Read an IPv4 address in dotted form. -/
def readIpv4 (text : List Char) : Option (Reading Ipv4) := do
  let (first, text) ← readNumber .octet text
  let text ← readChar '.' text
  let (second, text) ← readNumber .octet text
  let text ← readChar '.' text
  let (third, text) ← readNumber .octet text
  let text ← readChar '.' text
  let (fourth, text) ← readNumber .octet text
  return (⟨first.toUInt8, second.toUInt8, third.toUInt8, fourth.toUInt8⟩, text)

/-- The two groups that carry an IPv4 address. -/
def Ipv4.groups (address : Ipv4) : List UInt16 :=
  [address.first.toUInt16 <<< 8 ||| address.second.toUInt16,
    address.third.toUInt16 <<< 8 ||| address.fourth.toUInt16]

/-- A part of an IPv6 address: its groups, whether it ended in an IPv4 address, and the rest. -/
structure GroupRun where
  groups : List UInt16
  endedInIpv4 : Bool
  rest : List Char

/-- The separator before every group but the first. -/
def readSeparator (isFirst : Bool) (text : List Char) : Option (List Char) :=
  if isFirst then some text else readChar ':' text

/--
Read at most `room` groups with colons between them. An IPv4 address takes the
room of two groups and ends the run.
-/
def readGroups (isFirst : Bool) (text : List Char) : Nat → GroupRun
  | 0 => ⟨[], false, text⟩
  | room + 1 =>
      let carried := do
        if room = 0 then none
        let text ← readSeparator isFirst text
        readIpv4 text
      match carried with
      | some (address, rest) => ⟨address.groups, true, rest⟩
      | none =>
          match (do readNumber .group (← readSeparator isFirst text)) with
          | none => ⟨[], false, text⟩
          | some (group, rest) =>
              let run := readGroups false rest room
              ⟨group.toUInt16 :: run.groups, run.endedInIpv4, run.rest⟩

/-- An address of exactly eight groups. -/
def Ipv6.ofList? (groups : List UInt16) : Option Ipv6 :=
  if size : groups.length = 8 then
    some ⟨⟨groups.toArray, by simpa using size⟩⟩
  else
    none

/-- Read an IPv6 address: eight groups, or fewer around one `::`. -/
def readIpv6 (text : List Char) : Option (Reading Ipv6) :=
  let head := readGroups true text 8
  if head.groups.length = 8 then
    (Ipv6.ofList? head.groups).map (·, head.rest)
  else if head.endedInIpv4 then
    none
  else do
    let text ← readChar ':' head.rest
    let text ← readChar ':' text
    let tail := readGroups true text (8 - (head.groups.length + 1))
    let zeros := List.replicate (8 - head.groups.length - tail.groups.length) 0
    let address ← Ipv6.ofList? (head.groups ++ zeros ++ tail.groups)
    return (address, tail.rest)

/-- Read an address of either version. -/
def readIpAddress (text : List Char) : Option (Reading IpAddress) :=
  match readIpv4 text with
  | some (address, rest) => some (.v4 address, rest)
  | none => (readIpv6 text).map fun (address, rest) => (.v6 address, rest)

/-- Read a colon and a port. -/
def readPort (text : List Char) : Option (Reading UInt16) := do
  let text ← readChar ':' text
  let (port, text) ← readNumber .port text
  return (port.toUInt16, text)

/-- Read a scope identifier after its percent sign; without one the scope is zero. -/
def readScope (text : List Char) : List Char × UInt32 :=
  match (do readNumber .scope (← readChar '%' text)) with
  | some (scope, rest) => (rest, scope.toUInt32)
  | none => (text, 0)

/-- Read an IPv4 address with its port. -/
def readSocketIpv4 (text : List Char) : Option (Reading SocketAddress) := do
  let (host, text) ← readIpv4 text
  let (port, text) ← readPort text
  return (⟨.v4 host, port, 0⟩, text)

/-- Read an IPv6 socket address, whose host is in brackets. -/
def readSocketIpv6 (text : List Char) : Option (Reading SocketAddress) := do
  let text ← readChar '[' text
  let (host, text) ← readIpv6 text
  let (text, scope) := readScope text
  let text ← readChar ']' text
  let (port, text) ← readPort text
  return (⟨.v6 host, port, scope⟩, text)

/-- A reading that left nothing over. -/
def Reading.complete? {α : Type} : Option (Reading α) → Option α
  | some (value, []) => some value
  | _ => none

/-- The address that a text as a whole stands for. -/
def IpAddress.parse? (text : String) : Option IpAddress :=
  Reading.complete? (readIpAddress text.toList)

/-- The address and port that a text as a whole stands for. -/
def SocketAddress.parse? (text : String) : Option SocketAddress :=
  Reading.complete?
    ((readSocketIpv4 text.toList).orElse fun _ => readSocketIpv6 text.toList)

@[simp] theorem Reading.complete?_none {α : Type} :
    Reading.complete? (none : Option (Reading α)) = none := rfl

end PluggableHost.Net
