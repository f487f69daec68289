import PluggableHost.Config.Settings
import PluggableHost.Error
import PluggableHost.Net.Material
import PluggableHost.Tls.EncryptedKey

namespace PluggableHost.Tls

open PluggableHost.Config PluggableHost.Net PluggableHost.Observability PluggableHost.Os

/-!
# TLS contexts

A context is made of a certificate chain, the private key of its first
certificate and, when clients must show certificates too, the roots that those
are checked against. Each step that fails ends the making with a report;
nothing is replaced by something weaker.
-/

/-- How the certificates of clients are treated. -/
inductive ClientAuth where
  /-- They are not asked for. -/
  | trustAll
  /-- They must be there and lead to a root. -/
  | verify
  deriving Repr, DecidableEq

/-- How clients are treated, as descriptions and events show it. -/
def ClientAuth.label : ClientAuth → String
  | trustAll => "TrustAll"
  | verify => "Verify"

/-- What the TLS listener needs. -/
structure Context where
  clientAuth : ClientAuth
  /-- The application protocols that are offered. -/
  protocols : List String
  certificates : List Bytes
  key : PrivateKey
  /-- The roots that certificates of clients are checked against. -/
  roots : List Bytes
  deriving Repr, DecidableEq

/-- The context as a description shows it. -/
def Context.text (context : Context) : String :=
  "TlsContext \x7b client_auth: " ++ context.clientAuth.label ++
    ", alpn: " ++ toString context.protocols.length ++ " \x7d"

/-- The application protocols that every context offers. -/
def offeredProtocols : List String := ["h2", "http/1.1"]

/-- How material is read, decrypted and accepted. Refusals are given in words. -/
structure Acceptance where
  sections : Bytes → Except String (List Section)
  decrypt : Bytes → String → Except String PrivateKey
  /-- A certificate may be added to the roots. -/
  root : Bytes → Except String Unit
  /-- The first certificate is for the key. -/
  pair : List Bytes → PrivateKey → Except String Unit

/-- The acceptance by the rules of the other modules. -/
def Acceptance.standard : Acceptance where
  sections file := (sectionsOf file).mapError PemFault.message
  decrypt block password := (decryptKey block password).mapError EncryptedKeyFault.message
  root certificate := (Certificate.acceptRoot certificate).mapError CertificateFault.message
  pair certificates key := (checkPair certificates key).mapError PairFault.message

/-- An event of the making of a context. -/
def tlsEvent (level : Level) (message : String) (fields : List (String × FieldValue)) : Entry :=
  .log level .tls message fields

/-- A failure with a piece of material, reported. -/
def failWith {α : Type} (resource reason : String) : Recorded HostError α := do
  let failure := HostError.keyMaterial resource reason
  .note (tlsEvent .error "Unable to create TLS context"
    [("resource", .text resource), ("error", .text failure.message)])
  .fail failure

/-- The result of a step with a piece of material. -/
def orFail {α : Type} (resource : String) (outcome : Except String α) : Recorded HostError α :=
  match outcome with
  | .ok value => pure value
  | .error reason => failWith resource reason

/-- Read a piece of material. -/
def readMaterial (source : MaterialSource) (name : String) : Recorded HostError Bytes :=
  let found := source name
  match found.outcome with
  | .ok content => do
      .notes found.journal
      return content
  | .error cause => do
      .notes found.journal
      failWith name ("unable to load: " ++ cause.message)

/-- The certificates in a file; at least one. -/
def readCertificates (acceptance : Acceptance) (name : String) (file : Bytes) :
    Recorded HostError (List Bytes) := do
  let sections ← orFail name ((acceptance.sections file).mapError ("malformed PEM: " ++ ·))
  let certificates := sections.filterMap fun part =>
    if part.kind = .certificate then some part.content else none
  if certificates.isEmpty then failWith name "no certificates found" else return certificates

/-- The password of the private key: its own, or else that of the keystore. -/
def keyPassword? (settings : Settings) : Option String :=
  [settings.keyPass, settings.keystorePass].find? fun password => !password.isEmpty

/-- Read the private key in a file, which is encrypted if and only if there is a password. -/
def readKey (acceptance : Acceptance) (name : String) (file : Bytes) (password : Option String) :
    Recorded HostError PrivateKey :=
  match pemBlock? file encryptedLabel with
  | some block =>
      match password with
      | none => failWith name "private key is encrypted but no keyPass is configured"
      | some password => orFail name (acceptance.decrypt block password)
  | none => do
      let sections ←
        orFail name ((acceptance.sections file).mapError ("malformed private key: " ++ ·))
      match sections.findSome? PrivateKey.ofSection? with
      | none => failWith name "no private key found"
      | some key =>
          if password.isSome then
            failWith name "a key password is configured but the private key is not encrypted"
          else return key

/-- Add certificates to the roots one by one. -/
def addRoots (acceptance : Acceptance) (name : String) : List Bytes → Recorded HostError Unit
  | [] => pure ()
  | certificate :: rest => do
      orFail name (acceptance.root certificate)
      addRoots acceptance name rest

/-- Read the roots that certificates of clients are checked against. -/
def readRoots (acceptance : Acceptance) (settings : Settings) (source : MaterialSource) :
    Recorded HostError (List Bytes) := do
  let file ← readMaterial source settings.truststoreName
  if !settings.truststorePass.isEmpty then
    .note (tlsEvent .warn
      "truststorePass has no effect, PEM truststores carry no integrity seal"
      [("truststore", .text settings.truststoreName)])
  let roots ← readCertificates acceptance settings.truststoreName file
  addRoots acceptance settings.truststoreName roots
  return roots

/-- Check that the version asked for is offered. -/
def checkVersion (settings : Settings) : Recorded HostError Unit :=
  match settings.tlsProtocol with
  | none => pure ()
  | some version =>
      if tlsVersions.contains version then pure ()
      else .fail (.configuration [.tlsVersionRefused version])

/-- The versions that a context offers, in words. -/
def versionsText (settings : Settings) : String :=
  settings.tlsProtocol.getD "TLSv1.2+TLSv1.3"

/-- Make a context from settings and material. -/
def Context.build (acceptance : Acceptance) (settings : Settings) (source : MaterialSource) :
    Recorded HostError Context := do
  let keystore ← readMaterial source settings.keystoreName
  let certificates ← readCertificates acceptance settings.keystoreName keystore
  let key ← readKey acceptance settings.keystoreName keystore (keyPassword? settings)
  let roots ← if settings.enableTwoWayTls then readRoots acceptance settings source else pure []
  checkVersion settings
  let clientAuth := if settings.enableTwoWayTls then ClientAuth.verify else .trustAll
  if clientAuth = .trustAll then
    .note (tlsEvent .warn
      "Two-way TLS disabled: client certificates are not validated, every client is trusted"
      [("keystore", .text settings.keystoreName)])
  orFail settings.keystoreName (acceptance.pair certificates key)
  .note (tlsEvent .info "TLS context created"
    [("keystore", .text settings.keystoreName), ("client_auth", .text clientAuth.label),
      ("protocol", .text (versionsText settings))])
  return { clientAuth, protocols := offeredProtocols, certificates, key, roots }

end PluggableHost.Tls
