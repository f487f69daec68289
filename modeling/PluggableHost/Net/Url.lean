import PluggableHost.Net.Address
import PluggableHost.Net.Protocol

namespace PluggableHost.Net

/-!
# URLs of listeners

A URL names a scheme, a host, a port and a path. The path is given as any text
whatever: line breaks and tabs drop out of it, both slashes separate segments,
dot segments are resolved, and every character that could be taken for
something else is percent-encoded. So the text before the path is fixed by the
scheme, the host and the port alone.
-/

/-- A URL with an address for a host and a path that starts with a slash. -/
structure Url where
  protocol : Protocol
  host : IpAddress
  /-- The port, unless it is the scheme's own. -/
  port : Option UInt16
  path : String
  deriving Repr, DecidableEq

namespace Url

/-- The characters that vanish from a path before it is read. -/
def isDropped (character : Char) : Bool :=
  character = '\t' || character = '\n' || character = '\r'

/-- The characters that end a path segment. -/
def isSeparator (character : Char) : Bool :=
  character = '/' || character = '\\'

/-- The bytes that are written as a percent sign and two digits. -/
def isEncoded (byte : UInt8) : Bool :=
  byte ≤ 0x20 || byte ≥ 0x7f ||
    "\"#<>?\x60\x7b\x7d".toList.any fun character => character.toNat = byte.toNat

/-- A digit of a percent-encoded byte. -/
def percentDigit (value : Nat) : Char :=
  (Nat.digitChar value).toUpper

/-- A byte as it stands in a path. -/
def encodedByte (byte : UInt8) : List Char :=
  if isEncoded byte then
    ['%', percentDigit (byte.toNat / 16), percentDigit (byte.toNat % 16)]
  else
    [Char.ofNat byte.toNat]

/-- One character of a path, byte by byte in UTF-8. -/
def encodedChar (character : Char) : List Char :=
  (String.singleton character).toUTF8.toList.flatMap encodedByte

/-- A segment as it stands in a path. -/
def encodedSegment (segment : List Char) : List Char :=
  segment.flatMap encodedChar

/-- A segment of one dot, written plainly or percent-encoded. -/
def isSingleDot (segment : List Char) : Bool :=
  match segment with
  | ['.'] => true
  | ['%', '2', 'e'] => true
  | ['%', '2', 'E'] => true
  | _ => false

/-- A segment of two dots, each written plainly or percent-encoded. -/
def isDoubleDot (segment : List Char) : Bool :=
  match segment with
  | '.' :: rest => isSingleDot rest
  | '%' :: '2' :: 'e' :: rest => isSingleDot rest
  | '%' :: '2' :: 'E' :: rest => isSingleDot rest
  | _ => false

/-- A drive letter, which dot segments do not climb out of. -/
def isDriveLetter (segment : List Char) : Bool :=
  match segment with
  | [letter, mark] => letter.isAlpha && (mark = ':' || mark = '|')
  | _ => false

/-- The path one level up. Segments are held innermost first. -/
def parent : List (List Char) → List (List Char)
  | [] => []
  | segment :: outer => if isDriveLetter segment then segment :: outer else outer

/--
Resolve segments against the ones already entered. A last segment of dots
leaves the path of a directory, which ends in a slash.
-/
def resolve (entered : List (List Char)) : List (List Char) → List (List Char)
  | [] => entered
  | [last] =>
      if isDoubleDot last then [] :: parent entered
      else if isSingleDot last then [] :: entered
      else last :: entered
  | segment :: rest =>
      if isDoubleDot segment then resolve (parent entered) rest
      else if isSingleDot segment then resolve entered rest
      else resolve (segment :: entered) rest

/-- Split at every separator; there is always a last segment. -/
def segments : List Char → List (List Char)
  | [] => [[]]
  | character :: rest =>
      if isSeparator character then [] :: segments rest
      else
        match segments rest with
        | [] => [[character]]
        | first :: others => (character :: first) :: others

/-- The text without the separator that may stand in front of it. -/
def withoutLeadingSeparator : List Char → List Char
  | [] => []
  | character :: rest => if isSeparator character then rest else character :: rest

/-- The path that a text stands for. -/
def pathOf (text : String) : String :=
  let kept := withoutLeadingSeparator (text.toList.filter fun character => !isDropped character)
  let resolved := (resolve [] ((segments kept).map encodedSegment)).reverse
  String.ofList (resolved.flatMap fun segment => '/' :: segment)

/-- A host as it stands in a URL. -/
def hostText : IpAddress → String
  | .v4 address => address.text
  | .v6 address => "[" ++ address.groupsText ++ "]"

/-- The URL of a path on a socket. -/
def ofSocket (protocol : Protocol) (host : IpAddress) (port : UInt16) (path : String) : Url :=
  { protocol
    host
    port := if port = protocol.defaultPort then none else some port
    path := pathOf path }

/-- The port that a client connects to. -/
def knownPort (url : Url) : UInt16 :=
  url.port.getD url.protocol.defaultPort

/-- The part of a URL that tells scheme, host and port. -/
def authority (url : Url) : String :=
  url.protocol.scheme ++ "://" ++ hostText url.host ++
    match url.port with
    | some port => ":" ++ toString port.toNat
    | none => ""

/-- The URL as a text. -/
def text (url : Url) : String :=
  url.authority ++ url.path

/-- A URL made for a socket leads back to the port of the socket. -/
@[simp] theorem knownPort_ofSocket (protocol : Protocol) (host : IpAddress)
    (port : UInt16) (path : String) :
    (ofSocket protocol host port path).knownPort = port := by
  unfold ofSocket knownPort
  by_cases same : port = protocol.defaultPort <;> simp [same]

end Url

end PluggableHost.Net
