import PluggableHost.Text.Lossy
import PluggableHost.Text.Quoted
import PluggableHost.Tls.Base64

namespace PluggableHost.Tls

open PluggableHost.Os PluggableHost.Text

/-!
# Armoured sections

Material is a file of sections, each between a line that opens it and a line
that closes it, and text around them that does not matter. A section is found
by its lines, except for encrypted keys, which are found by searching for the
marks of their label anywhere in the bytes.
-/

/-- The mark that opens a block with a label. -/
def openingMark (label : String) : Bytes := .ofText ("-----BEGIN " ++ label ++ "-----")

/-- The mark that closes a block with a label. -/
def closingMark (label : String) : Bytes := .ofText ("-----END " ++ label ++ "-----")

/-- The first place at which a piece occurs in bytes. -/
def indexOf? (piece : Bytes) : Bytes → Option Nat
  | [] => if piece.isEmpty then some 0 else none
  | byte :: rest =>
      if piece.isPrefixOf (byte :: rest) then some 0 else (indexOf? piece rest).map (· + 1)

/--
The bytes from the first opening mark of a label to the closing mark after it,
marks included.
-/
def pemBlock? (bytes : Bytes) (label : String) : Option Bytes := do
  let start ← indexOf? (openingMark label) bytes
  let tail := bytes.drop start
  let stop ← indexOf? (closingMark label) tail
  return tail.take (stop + (closingMark label).length)

/-- The kinds of sections that are read; others are passed over. -/
inductive SectionKind where
  | certificate
  | publicKey
  /-- A private key of any kind. -/
  | privateKey
  /-- A private RSA key in the form of its own standard. -/
  | rsaPrivateKey
  /-- A private key of an elliptic curve in the form of its own standard. -/
  | ecPrivateKey
  | revocationList
  | certificateRequest
  | helloConfig
  deriving Repr, DecidableEq

/-- The kind that a label stands for. -/
def SectionKind.ofLabel? (label : Bytes) : Option SectionKind :=
  let is (text : String) : Bool := label = Bytes.ofText text
  if is "CERTIFICATE" then some .certificate
  else if is "PUBLIC KEY" then some .publicKey
  else if is "PRIVATE KEY" then some .privateKey
  else if is "RSA PRIVATE KEY" then some .rsaPrivateKey
  else if is "EC PRIVATE KEY" then some .ecPrivateKey
  else if is "X509 CRL" then some .revocationList
  else if is "CERTIFICATE REQUEST" then some .certificateRequest
  else if is "ECHCONFIG" then some .helloConfig
  else none

/-- A section of a file, decoded. -/
structure Section where
  kind : SectionKind
  content : Bytes
  deriving Repr, DecidableEq

/-- Why a file of sections could not be read. -/
inductive PemFault where
  | base64 (fault : Base64Fault)
  /-- The file ends inside a section. -/
  | endMissing (label : Bytes)
  /-- A line starts like one that opens a section, but does not end like one. -/
  | illegalStart (line : Bytes)
  deriving Repr, DecidableEq

/-- The fault in words. -/
def PemFault.message : PemFault → String
  | base64 fault => fault.message
  | endMissing label => "section end " ++ quoted (lossy label) ++ " missing"
  | illegalStart line => "illegal section start: " ++ quoted (lossy line)

/-- The lines of a file, each with the byte that ends it. -/
def linesOf : Bytes → List Bytes
  | [] => []
  | byte :: rest =>
      if byte = 10 || byte = 13 then [byte] :: linesOf rest
      else
        match linesOf rest with
        | [] => [[byte]]
        | line :: others => (byte :: line) :: others

/-- A byte that may stand at the end of any line. -/
def isLineEnd (byte : UInt8) : Bool := byte = 10 || byte = 13 || byte = 32

/-- A line without blanks and line breaks at its end. -/
def trimmedLine (line : Bytes) : Bytes := (line.reverse.dropWhile isLineEnd).reverse

/--
The dashes at the end of a line, with blanks between them, from the last to the first.

Blanks before the first dash belong to the label.
-/
def trailingDashes (line : Bytes) : Bytes :=
  let tail := line.reverse.takeWhile fun byte => byte = 45 || isLineEnd byte
  (tail.reverse.dropWhile fun byte => byte ≠ 45).reverse

/-- The start of a line that opens a section. -/
def openingStart : Bytes := .ofText "-----BEGIN "

/-- The label on a line that opens a section, unless the line does not end with five dashes. -/
def labelOf? (line : Bytes) : Option Bytes :=
  let dashes := trailingDashes line
  if dashes.count 45 = 5 then
    some ((line.take (line.length - dashes.length)).drop openingStart.length)
  else none

/-- A line closes the section of a label. -/
def closes (label line : Bytes) : Bool :=
  (Bytes.ofText "-----END " ++ label ++ Bytes.ofText "-----").isPrefixOf line

/--
Read the sections of lines, given the label of the open section and what was
collected of it. A line that opens a section inside another one changes the
label and keeps what was collected.
-/
def readSections : Option Bytes → Bytes → List Bytes → Except PemFault (List Section)
  | none, _, [] => .ok []
  | some label, _, [] => .error (.endMissing label)
  | current, collected, line :: rest =>
      if openingStart.isPrefixOf line then
        match labelOf? line with
        | none => .error (.illegalStart line)
        | some label => readSections (some label) collected rest
      else
        match current with
        | none => readSections none collected rest
        | some label =>
            if closes label line then
              match SectionKind.ofLabel? label with
              | none => readSections none [] rest
              | some kind =>
                  match decodeLenient collected with
                  | .error fault => .error (.base64 fault)
                  | .ok content => do
                      let others ← readSections none [] rest
                      return ⟨kind, content⟩ :: others
            else readSections (some label) (collected ++ trimmedLine line) rest

/-- The sections of a file that are of a known kind. -/
def sectionsOf (file : Bytes) : Except PemFault (List Section) :=
  readSections none [] (linesOf file)

end PluggableHost.Tls
