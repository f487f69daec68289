namespace PluggableHost.Net

/-!
# Internet addresses

Addresses of both families, their canonical text, and socket addresses. The
text of an IPv6 address shortens its first longest run of zero groups; an
address that carries an IPv4 address is written with that address at its end,
except where a URL asks for groups alone.
-/

/-- An IPv4 address, most significant byte first. -/
structure Ipv4 where
  first : UInt8
  second : UInt8
  third : UInt8
  fourth : UInt8
  deriving Repr, DecidableEq

/-- An IPv6 address as eight groups, most significant first. -/
structure Ipv6 where
  groups : Vector UInt16 8
  deriving Repr, DecidableEq

/-- An address of either version. -/
inductive IpAddress where
  | v4 (address : Ipv4)
  | v6 (address : Ipv6)
  deriving Repr, DecidableEq

/-- A host with a port, and for IPv6 the scope that picks an interface. -/
structure SocketAddress where
  host : IpAddress
  port : UInt16
  scope : UInt32 := 0
  deriving Repr, DecidableEq

namespace Ipv4

/-- The bytes of the address in their order. -/
def octets (address : Ipv4) : List UInt8 :=
  [address.first, address.second, address.third, address.fourth]

/-- The wildcard of IPv4. -/
def unspecified : Ipv4 := ⟨0, 0, 0, 0⟩

/-- The address of the machine itself in IPv4. -/
def loopback : Ipv4 := ⟨127, 0, 0, 1⟩

/-- The address in dotted form. -/
def text (address : Ipv4) : String :=
  String.intercalate "." (address.octets.map fun octet => toString octet.toNat)

end Ipv4

/-- A run of zero groups: where it starts and how long it is. -/
structure ZeroRun where
  start : Nat
  length : Nat
  deriving Repr, DecidableEq

/-- The longer of two runs, the earlier one when they are equally long. -/
def ZeroRun.longer (earlier later : ZeroRun) : ZeroRun :=
  if later.length > earlier.length then later else earlier

/-- The longest run of zero groups, given the run that ends just before `position`. -/
def longestZeroRun (position : Nat) (current : ZeroRun) : List UInt16 → ZeroRun
  | [] => current
  | group :: rest =>
      if group = 0 then
        longestZeroRun (position + 1) ⟨current.start, current.length + 1⟩ rest
      else
        current.longer (longestZeroRun (position + 1) ⟨position + 1, 0⟩ rest)

namespace Ipv6

/-- The groups of the address in their order. -/
def toList (address : Ipv6) : List UInt16 := address.groups.toList

/-- The wildcard of IPv6. -/
def unspecified : Ipv6 := ⟨#v[0, 0, 0, 0, 0, 0, 0, 0]⟩

/-- The address of the machine itself in IPv6. -/
def loopback : Ipv6 := ⟨#v[0, 0, 0, 0, 0, 0, 0, 1]⟩

/-- One group in base sixteen without leading zeros. -/
def groupText (group : UInt16) : String :=
  String.ofList (Nat.toDigits 16 group.toNat)

/-- Groups with colons between them. -/
def joined (groups : List UInt16) : String :=
  String.intercalate ":" (groups.map groupText)

/-- Eight groups, the first longest run of two or more zeros shortened to `::`. -/
def groupsText (address : Ipv6) : String :=
  let run := longestZeroRun 0 ⟨0, 0⟩ address.toList
  if run.length > 1 then
    joined (address.toList.take run.start) ++ "::" ++
      joined (address.toList.drop (run.start + run.length))
  else
    joined address.toList

/-- The IPv4 address carried by an address of the form `::ffff:a.b.c.d`. -/
def carriedIpv4? (address : Ipv6) : Option Ipv4 :=
  match address.toList with
  | [0, 0, 0, 0, 0, 0xffff, high, low] =>
      some ⟨(high >>> 8).toUInt8, high.toUInt8, (low >>> 8).toUInt8, low.toUInt8⟩
  | _ => none

/-- The address in its shortest form; a carried IPv4 address stays in dotted form. -/
def text (address : Ipv6) : String :=
  match address.carriedIpv4? with
  | some carried => "::ffff:" ++ carried.text
  | none => address.groupsText

end Ipv6

namespace IpAddress

/-- The address in the form of its version. -/
def text : IpAddress → String
  | v4 address => address.text
  | v6 address => address.text

/-- The wildcard of its family, which stands for every local address. -/
def isUnspecified : IpAddress → Bool
  | v4 address => address = .unspecified
  | v6 address => address = .unspecified

/-- The address is one of IPv6. -/
def isV6 : IpAddress → Bool
  | v4 _ => false
  | v6 _ => true

/-- The loopback address of the same family. -/
def familyLoopback : IpAddress → IpAddress
  | v4 _ => v4 .loopback
  | v6 _ => v6 .loopback

end IpAddress

/-- `host:port`, with an IPv6 host in brackets and a scope written when there is one. -/
def SocketAddress.text (address : SocketAddress) : String :=
  match address.host with
  | .v4 host => host.text ++ ":" ++ toString address.port.toNat
  | .v6 host =>
      let scope := if address.scope = 0 then "" else "%" ++ toString address.scope.toNat
      "[" ++ host.text ++ scope ++ "]:" ++ toString address.port.toNat

end PluggableHost.Net
