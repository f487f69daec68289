import PluggableHost.Net.Address.Reader
import PluggableHost.Net.Url
import PluggableHost.Text.Lossy

namespace PluggableHost.Net

open PluggableHost.Os PluggableHost.Text

/-!
# Reading URLs

URLs of the two schemes that a host speaks, with every part that they may have, read as
the URL standard says. A host in brackets is an IPv6 address, one that ends in a number
is an IPv4 address in any of its spellings, and all others are names. Names that are
not plain ASCII, or that may encode such a name, are left to a given translation.
-/

/-- The host of a URL. -/
inductive UrlHost where
  | name (text : String)
  | address (address : IpAddress)
  deriving Repr, DecidableEq

/-- A URL with all its parts, percent-encoded where they have to be. -/
structure Location where
  protocol : Protocol
  username : String := ""
  password : String := ""
  host : UrlHost
  /-- The port, unless it is the scheme's own. -/
  port : Option UInt16 := none
  path : String := "/"
  query : Option String := none
  fragment : Option String := none
  deriving Repr, DecidableEq

/-- The URL of a listener among all URLs. -/
def Url.location (url : Url) : Location :=
  { protocol := url.protocol, host := .address url.host, port := url.port, path := url.path }

/-! ## Percent-encoding -/

/-- The byte is no visible character of ASCII, or one of these marks. -/
def isEncodedAmong (marks : String) (byte : UInt8) : Bool :=
  byte ≤ 0x20 || byte ≥ 0x7f || marks.toList.any fun mark => mark.toNat = byte.toNat

/-- A text with its encoded bytes in percent form. -/
def percentEncoded (marks : String) (text : List Char) : String :=
  String.ofList <| (String.ofList text).toUTF8.toList.flatMap fun byte =>
    if isEncodedAmong marks byte then
      ['%', Url.percentDigit (byte.toNat / 16), Url.percentDigit (byte.toNat % 16)]
    else
      [Char.ofNat byte.toNat]

/-- The marks that are encoded in a name or password. -/
def userinfoMarks : String := "\"#<>?\x60\x7b\x7d/:;=@[\\]^|"

/-- The marks that are encoded in a query. -/
def queryMarks : String := "\"#<>'"

/-- The marks that are encoded in a fragment. -/
def fragmentMarks : String := "\"<>\x60"

/-- The value of a byte that is a digit of base sixteen. -/
def hexValue? (byte : UInt8) : Option Nat :=
  digitValue? 16 (Char.ofNat byte.toNat)

/-- Bytes, with those in place that a percent sign and two digits stand for. -/
def percentDecoded : Bytes → Bytes
  | 0x25 :: high :: low :: rest =>
      match hexValue? high, hexValue? low with
      | some upper, some lower => (upper * 16 + lower).toUInt8 :: percentDecoded rest
      | _, _ => 0x25 :: percentDecoded (high :: low :: rest)
  | byte :: rest => byte :: percentDecoded rest
  | [] => []

/-! ## Hosts -/

/-- A number of a given base; without digits it is zero. -/
def numberOf? (base : Nat) (digits : List Char) : Option Nat :=
  if digits.all (isDigitOf base) then some (digitsValue base digits) else none

/-- A number of an IPv4 address: in base sixteen or eight after a prefix, else in base ten. -/
def ipv4Number? : List Char → Option Nat
  | [] => none
  | '0' :: 'x' :: digits => numberOf? 16 digits
  | '0' :: 'X' :: digits => numberOf? 16 digits
  | '0' :: second :: digits => numberOf? 8 (second :: digits)
  | digits => numberOf? 10 digits

/-- The parts of a name, of which the last may be followed by a point. -/
def partsOf (name : List Char) : List (List Char) :=
  let parts := name.splitOn '.'
  if parts.length > 1 && parts.getLast? = some [] then parts.dropLast else parts

/-- The last part of a name is a number, so the name is an IPv4 address or nothing. -/
def endsInNumber (name : List Char) : Bool :=
  match (partsOf name).getLast? with
  | none => false
  | some last => (!last.isEmpty && last.all (isDigitOf 10)) || (ipv4Number? last).isSome

/-- The address of a number. -/
def Ipv4.ofNat (value : Nat) : Ipv4 :=
  ⟨(value / 16777216).toUInt8, (value / 65536).toUInt8, (value / 256).toUInt8, value.toUInt8⟩

/-- An address of one to four numbers, of which the last takes the room that is left. -/
def ipv4OfNumbers? (numbers : List Nat) : Option Ipv4 :=
  match numbers.getLast? with
  | none => none
  | some last =>
      let front := numbers.dropLast
      if numbers.length > 4 || front.any (fun number => number > 255) ||
          last ≥ Nat.pow 256 (5 - numbers.length) then none
      else
        let upper := front.foldl (fun value number => value * 256 + number) 0
        some (.ofNat (upper * Nat.pow 256 (5 - numbers.length) + last))

/-- The IPv4 address that a name stands for, if its parts are such numbers. -/
def ipv4OfName? (name : List Char) : Option Ipv4 := do
  ipv4OfNumbers? (← (partsOf name).mapM ipv4Number?)

/-- A character that the name of a host must not hold. -/
def isForbidden (character : Char) : Bool :=
  character.toNat ≤ 0x20 || character.toNat = 0x7f || "#/:<>?@[\\]^|%".toList.contains character

/-- A name of ASCII characters in which no part is marked as an encoding. -/
def isPlainName (name : List Char) : Bool :=
  name.all (fun character => character.toNat < 128) &&
    (name.splitOn '.').all fun part =>
      (part.take 4).map Char.toLower ≠ ['x', 'n', '-', '-']

/-- The name of a host in ASCII. -/
def asciiName? (toAscii : String → Option String) (name : String) : Option (List Char) :=
  if isPlainName name.toList then some (name.toList.map Char.toLower)
  else (toAscii name).map String.toList

/-- The host that a text which is not in brackets stands for. -/
def hostOfName? (toAscii : String → Option String) (text : List Char) : Option UrlHost := do
  let decoded := lossy (percentDecoded (Bytes.ofText (String.ofList text)))
  let name ← asciiName? toAscii decoded
  if name.isEmpty || name.any isForbidden then none
  if endsInNumber name then
    return .address (.v4 (← ipv4OfName? name))
  return .name (String.ofList name)

/-- The host that a text stands for, if it is one. -/
def hostOf? (toAscii : String → Option String) (text : List Char) : Option UrlHost :=
  match text with
  | '[' :: inner =>
      if inner.getLast? = some ']' then
        (Reading.complete? (readIpv6 inner.dropLast)).map fun address =>
          .address (.v6 address)
      else none
  | _ => hostOfName? toAscii text

/-! ## The parts of a URL -/

/-- A character that is cut off at the two ends of a URL. -/
def isTrimmed (character : Char) : Bool := character.toNat ≤ 0x20

/-- A URL without what is cut off and what drops out of it. -/
def cleaned (text : List Char) : List Char :=
  let trimmed := ((text.dropWhile isTrimmed).reverse.dropWhile isTrimmed).reverse
  trimmed.filter fun character => !Url.isDropped character

/-- The scheme in front of a URL, in any case, and what follows its colon. -/
def readScheme (text : List Char) : Option (Reading Protocol) :=
  match text.dropWhile fun character => character ≠ ':' with
  | ':' :: rest =>
      let name := (text.takeWhile fun character => character ≠ ':').map Char.toLower
      ([Protocol.plain, Protocol.tls].find? fun protocol => protocol.scheme.toList = name).map
        fun protocol => (protocol, rest)
  | _ => none

/-- A character that ends the authority of a URL. -/
def endsAuthority (character : Char) : Bool :=
  Url.isSeparator character || character = '?' || character = '#'

/-- A text up to the first of some characters, and what follows that one. -/
def cutAt (mark : Char) (text : List Char) : List Char × Option (List Char) :=
  match text.dropWhile fun character => character ≠ mark with
  | [] => (text, none)
  | _ :: rest => (text.takeWhile fun character => character ≠ mark, some rest)

/-- The credentials in front of the last `@`, and what follows it. -/
def cutCredentials (authority : List Char) : List Char × List Char :=
  match cutAt '@' authority.reverse with
  | (_, none) => ([], authority)
  | (host, some credentials) => (credentials.reverse, host.reverse)

/-- A host up to the first colon that is not in brackets, and what follows the colon. -/
def cutPort (bracketed : Bool) : List Char → List Char × Option (List Char)
  | [] => ([], none)
  | character :: rest =>
      if character = ':' && !bracketed then ([], some rest)
      else
        let inside := character = '[' || (bracketed && character ≠ ']')
        let (host, port) := cutPort inside rest
        (character :: host, port)

/-- A port that is written out, if it is one; that of the scheme is left out. -/
def portOf? (protocol : Protocol) : Option (List Char) → Option (Option UInt16)
  | none => some none
  | some [] => some none
  | some digits =>
      match numberOf? 10 digits with
      | none => none
      | some number =>
          if number ≥ 65536 then none
          else if number.toUInt16 = protocol.defaultPort then some none
          else some (some number.toUInt16)

namespace Location

/-- Read a URL; there is none where the text has another scheme. -/
def read? (toAscii : String → Option String) (text : String) : Option Location := do
  let (protocol, text) ← readScheme (cleaned text.toList)
  let text := text.dropWhile Url.isSeparator
  let authority := text.takeWhile fun character => !endsAuthority character
  let rest := text.dropWhile fun character => !endsAuthority character
  let (credentials, socket) := cutCredentials authority
  let (username, password) := cutAt ':' credentials
  let (name, port) := cutPort false socket
  let host ← hostOf? toAscii name
  let port ← portOf? protocol port
  let (front, fragment) := cutAt '#' rest
  let (path, query) := cutAt '?' front
  return {
    protocol
    username := percentEncoded userinfoMarks username
    password := percentEncoded userinfoMarks (password.getD [])
    host
    port
    path := Url.pathOf (String.ofList path)
    query := query.map (percentEncoded queryMarks)
    fragment := fragment.map (percentEncoded fragmentMarks) }

/-- The same URL with another path. -/
def withPath (location : Location) (path : String) : Location :=
  { location with path := Url.pathOf path }

/-- The port that a client connects to. -/
def knownPort (location : Location) : UInt16 :=
  location.port.getD location.protocol.defaultPort

/-- The name and password before the host. -/
def credentialsText (location : Location) : String :=
  if location.username = "" && location.password = "" then ""
  else
    location.username ++ (if location.password = "" then "" else ":" ++ location.password) ++ "@"

/-- A host of either kind as it stands in a URL. -/
def hostText : UrlHost → String
  | .name text => text
  | .address address => Url.hostText address

/-- The whole URL. -/
def text (location : Location) : String :=
  location.protocol.scheme ++ "://" ++ location.credentialsText ++ hostText location.host ++
    (match location.port with
    | some port => ":" ++ toString port.toNat
    | none => "") ++
    location.path ++
    (match location.query with
    | some query => "?" ++ query
    | none => "") ++
    match location.fragment with
    | some fragment => "#" ++ fragment
    | none => ""

end Location

end PluggableHost.Net
