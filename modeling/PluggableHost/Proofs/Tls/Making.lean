import PluggableHost.Proofs.Observability.Outcome
import PluggableHost.Tls.Context

namespace PluggableHost.Tls

open PluggableHost.Config PluggableHost.Net PluggableHost.Observability
open PluggableHost.Os

/-!
# TLS contexts are made of what was asked for, or not at all

A context is made exactly when every piece that the settings ask for was found,
read, decrypted and accepted, and it consists of these pieces.  A failure names the
piece of material that is to blame, and the truststore only after everything that is
wanted of the keystore was found in it.  Without two-way TLS the truststore is not
even looked for.
-/

variable
  {α : Type}
  {acceptance : Acceptance}
  {settings : Settings}
  {source : MaterialSource}

/-! ## Failures name the material -/

/-- A failure that names a piece of material. -/
def Blames
    (resource : String)
    (failure : HostError) : Prop :=
  ∃ reason, failure = .keyMaterial resource reason

/-- A failure blames the resource it names. -/
theorem blames_failWith
    (resource reason : String) :
    (failWith resource reason : Recorded HostError α).Fails
      (Blames resource) :=
  Recorded.fails_bind (Recorded.fails_note _) fun _ _ =>
    Recorded.fails_fail ⟨reason, rfl⟩

/-- A step that may fail blames the resource it names. -/
theorem blames_orFail
    (resource : String)
    (outcome : Except String α) :
    (orFail resource outcome).Fails (Blames resource) := by
  cases outcome with
  | ok value =>
      exact Recorded.fails_pure value
  | error reason =>
      exact blames_failWith resource reason

/-- A file that cannot be read is to blame. -/
theorem blames_readMaterial
    (source : MaterialSource)
    (name : String) :
    (readMaterial source name).Fails (Blames name) := by
  unfold readMaterial
  dsimp only
  split
  · exact Recorded.fails_bind (Recorded.fails_notes _) fun _ _ =>
      Recorded.fails_pure _
  · exact Recorded.fails_bind (Recorded.fails_notes _) fun _ _ =>
      blames_failWith name _

/-- A file without usable certificates is to blame. -/
theorem blames_readCertificates
    (acceptance : Acceptance)
    (name : String)
    (file : Bytes) :
    (readCertificates acceptance name file).Fails (Blames name) := by
  refine Recorded.fails_bind (blames_orFail name _) fun sections _ => ?_
  dsimp only
  split
  · exact blames_failWith name _
  · exact Recorded.fails_pure _

/-- A file without a usable key is to blame. -/
theorem blames_readKey
    (acceptance : Acceptance)
    (name : String)
    (file : Bytes)
    (password : Option String) :
    (readKey acceptance name file password).Fails (Blames name) := by
  unfold readKey
  split
  · split
    · exact blames_failWith name _
    · exact blames_orFail name _
  · refine Recorded.fails_bind (blames_orFail name _) fun sections _ => ?_
    split
    · exact blames_failWith name _
    · split
      · exact blames_failWith name _
      · exact Recorded.fails_pure _

/-- A file with a root that is not accepted is to blame. -/
theorem blames_addRoots
    (acceptance : Acceptance)
    (name : String)
    (certificates : List Bytes) :
    (addRoots acceptance name certificates).Fails (Blames name) := by
  induction certificates with
  | nil =>
      exact Recorded.fails_pure ()
  | cons certificate rest inductionHypothesis =>
      exact Recorded.fails_bind (blames_orFail name _) fun _ _ =>
        inductionHypothesis

/-- A truststore that cannot be used is to blame. -/
theorem blames_readRoots
    (acceptance : Acceptance)
    (settings : Settings)
    (source : MaterialSource) :
    (readRoots acceptance settings source).Fails
      (Blames settings.truststoreName) := by
  refine Recorded.fails_bind (blames_readMaterial source _) fun file _ => ?_
  have others :
      (readCertificates acceptance settings.truststoreName file >>=
          fun roots =>
            addRoots acceptance settings.truststoreName roots >>=
              fun _ => (Pure.pure roots : Recorded HostError _)).Fails
        (Blames settings.truststoreName) :=
    Recorded.fails_bind (blames_readCertificates _ _ _) fun _ _ =>
      Recorded.fails_bind (blames_addRoots _ _ _) fun _ _ =>
        Recorded.fails_pure _
  split
  · exact Recorded.fails_bind (Recorded.fails_note _) fun _ _ => others
  · exact others

/-! ## What the parts find -/

/-- The certificates among sections. -/
def certificatesOf (sections : List Section) : List Bytes :=
  sections.filterMap fun part =>
    if part.kind = .certificate then some part.content else none

/-- The certificates that a file holds, of which there are some. -/
structure HoldsCertificates
    (acceptance : Acceptance)
    (file : Bytes)
    (certificates : List Bytes) : Prop where
  sectioned :
    ∃ sections,
      acceptance.sections file = .ok sections ∧
        certificates = certificatesOf sections
  someCertificate : certificates ≠ []

/-- The private key that a file holds for somebody with a password, or without one. -/
inductive HoldsKey
    (acceptance : Acceptance)
    (file : Bytes) : Option String → PrivateKey → Prop where
  | encrypted
      {block : Bytes}
      {password : String}
      {key : PrivateKey}
      (first : pemBlock? file encryptedLabel = some block)
      (decrypted : acceptance.decrypt block password = .ok key) :
      HoldsKey acceptance file (some password) key
  | unencrypted
      {sections : List Section}
      {key : PrivateKey}
      (noBlock : pemBlock? file encryptedLabel = none)
      (sectioned : acceptance.sections file = .ok sections)
      (first : sections.findSome? PrivateKey.ofSection? = some key) :
      HoldsKey acceptance file none key

/-- A step that may fail succeeds as its outcome does. -/
theorem orFail_ok_iff
    {resource : String}
    {outcome : Except String α}
    {value : α} :
    (orFail resource outcome).outcome = .ok value ↔
      outcome = .ok value := by
  cases outcome with
  | ok found =>
      simp [orFail]
  | error reason =>
      simp [orFail, failWith, Recorded.bind_ok_iff]

/-- A failure does not succeed. -/
theorem failWith_ne_ok
    {resource reason : String}
    {value : α} :
    (failWith resource reason : Recorded HostError α).outcome ≠
      .ok value := by
  simp [failWith, Recorded.bind_ok_iff]

/-- Translating the failures leaves the successes. -/
theorem mapError_ok_iff
    {ε δ : Type}
    {change : ε → δ}
    {outcome : Except ε α}
    {value : α} :
    outcome.mapError change = .ok value ↔ outcome = .ok value := by
  cases outcome with
  | ok found =>
      show (Except.ok found : Except δ α) = .ok value ↔ _
      rw [Except.ok.injEq, Except.ok.injEq]
  | error reason =>
      show (Except.error (change reason) : Except δ α) = .ok value ↔ _
      simp

/-- A file is read as what its source holds. -/
theorem readMaterial_ok_iff
    {name : String}
    {content : Bytes} :
    (readMaterial source name).outcome = .ok content ↔
      (source name).outcome = .ok content := by
  unfold readMaterial
  dsimp only
  split
  · next found =>
      simp [Recorded.bind_ok_iff, found]
  · next found =>
      simp [Recorded.bind_ok_iff, found, failWith_ne_ok]

/-- The certificates read are those the file holds. -/
theorem readCertificates_ok_iff
    {name : String}
    {file : Bytes}
    {certificates : List Bytes} :
    (readCertificates acceptance name file).outcome = .ok certificates ↔
      HoldsCertificates acceptance file certificates := by
  have found (sections : List Section) :
      ((if (certificatesOf sections).isEmpty then
          failWith name "no certificates found"
        else
          Pure.pure (certificatesOf sections) :
          Recorded HostError (List Bytes)).outcome = .ok certificates) ↔
        certificates = certificatesOf sections ∧ certificates ≠ [] := by
    split
    · next empty =>
        have none := List.isEmpty_iff.mp empty
        simp [failWith_ne_ok, none]
    · next present =>
        have some := mt List.isEmpty_iff.mpr present
        constructor
        · intro same
          cases same
          exact ⟨rfl, some⟩
        · rintro ⟨rfl, -⟩
          rfl
  rw [readCertificates, Recorded.bind_ok_iff]
  simp only [orFail_ok_iff, mapError_ok_iff]
  constructor
  · rintro ⟨sections, sectioned, outcome⟩
    obtain ⟨same, some⟩ := (found sections).mp outcome
    exact ⟨⟨sections, sectioned, same⟩, some⟩
  · rintro ⟨⟨sections, sectioned, same⟩, some⟩
    exact ⟨sections, sectioned, (found sections).mpr ⟨same, some⟩⟩

/-- The key read is the one the file holds under the password. -/
theorem readKey_ok_iff
    {name : String}
    {file : Bytes}
    {password : Option String}
    {key : PrivateKey} :
    (readKey acceptance name file password).outcome = .ok key ↔
      HoldsKey acceptance file password key := by
  unfold readKey
  cases armoured : pemBlock? file encryptedLabel with
  | some block =>
      cases password with
      | none =>
          simp only [failWith_ne_ok, false_iff]
          intro holds
          cases holds with
          | unencrypted noBlock =>
              rw [armoured] at noBlock
              cases noBlock
      | some password =>
          simp only [orFail_ok_iff]
          constructor
          · exact fun decrypted => .encrypted armoured decrypted
          · intro holds
            cases holds with
            | encrypted first decrypted =>
                rw [armoured] at first
                cases first
                exact decrypted
  | none =>
      simp only [Recorded.bind_ok_iff, orFail_ok_iff, mapError_ok_iff]
      constructor
      · rintro ⟨sections, sectioned, outcome⟩
        split at outcome
        · exact absurd outcome failWith_ne_ok
        · next found =>
            cases password with
            | some password =>
                exact absurd outcome failWith_ne_ok
            | none =>
                cases outcome
                exact .unencrypted armoured sectioned found
      · intro holds
        cases holds with
        | encrypted first decrypted =>
            rw [armoured] at first
            cases first
        | unencrypted noBlock sectioned first =>
            refine ⟨_, sectioned, ?_⟩
            simp [first]

/-- The roots are added when each of them is accepted. -/
theorem addRoots_ok_iff
    {name : String}
    {certificates : List Bytes} :
    (addRoots acceptance name certificates).outcome = .ok () ↔
      ∀ certificate ∈ certificates,
        acceptance.root certificate = .ok () := by
  induction certificates with
  | nil =>
      simp [addRoots]
  | cons certificate rest inductionHypothesis =>
      simp [addRoots, Recorded.unit_bind_ok_iff, orFail_ok_iff,
        inductionHypothesis]

/-- The version is accepted when it is none or a known one. -/
theorem checkVersion_ok_iff :
    (checkVersion settings).outcome = .ok () ↔
      ∀ version, settings.tlsProtocol = some version →
        version ∈ tlsVersions := by
  unfold checkVersion
  cases settings.tlsProtocol with
  | none =>
      simp
  | some version =>
      by_cases offered : version ∈ tlsVersions <;>
        simp [offered]

/-! ## The password of the key -/

/-- The key's own password goes before that of the keystore; an empty one is none. -/
theorem keyPassword?_eq
    (settings : Settings) :
    keyPassword? settings =
      if settings.keyPass ≠ "" then some settings.keyPass
      else if settings.keystorePass ≠ "" then some settings.keystorePass
      else none := by
  unfold keyPassword?
  by_cases own : settings.keyPass = "" <;>
    by_cases shared : settings.keystorePass = "" <;>
      simp [own, shared]

/-- There is no password for the key when neither is set. -/
theorem keyPassword?_eq_none_iff :
    keyPassword? settings = none ↔
      settings.keyPass = "" ∧ settings.keystorePass = "" := by
  rw [keyPassword?_eq]
  by_cases own : settings.keyPass = "" <;>
    simp [own]

/-- The password of the key is its own, or else that of the keystore. -/
theorem keyPassword?_eq_some_iff
    {password : String} :
    keyPassword? settings = some password ↔
      password ≠ "" ∧
        password =
          if settings.keyPass ≠ "" then settings.keyPass
          else settings.keystorePass := by
  rw [keyPassword?_eq]
  by_cases own : settings.keyPass = "" <;>
    grind

/-! ## What a context is made of -/

/-- What a file under the name of the keystore is to the server: its certificates and its key. -/
structure Keystore
    (acceptance : Acceptance)
    (settings : Settings)
    (source : MaterialSource)
    (certificates : List Bytes)
    (key : PrivateKey)
    (file : Bytes) : Prop where
  loaded : (source settings.keystoreName).outcome = .ok file
  chain : HoldsCertificates acceptance file certificates
  key : HoldsKey acceptance file (keyPassword? settings) key

/-- What a file under the name of the truststore is to the server: roots, all of them accepted. -/
structure Truststore
    (acceptance : Acceptance)
    (settings : Settings)
    (source : MaterialSource)
    (roots : List Bytes)
    (file : Bytes) : Prop where
  loaded : (source settings.truststoreName).outcome = .ok file
  holds : HoldsCertificates acceptance file roots
  accepted : ∀ root ∈ roots, acceptance.root root = .ok ()

/-- The roots read are those of a usable truststore. -/
theorem readRoots_ok_iff
    {roots : List Bytes} :
    (readRoots acceptance settings source).outcome = .ok roots ↔
      ∃ file, Truststore acceptance settings source roots file := by
  have others (file : Bytes) :
      (readCertificates acceptance settings.truststoreName file >>=
          fun found =>
            addRoots acceptance settings.truststoreName found >>=
              fun _ => (Pure.pure found : Recorded HostError _)).outcome =
          .ok roots ↔
        HoldsCertificates acceptance file roots ∧
          ∀ root ∈ roots, acceptance.root root = .ok () := by
    rw [Recorded.bind_ok_iff]
    simp only [Recorded.unit_bind_ok_iff, readCertificates_ok_iff,
      addRoots_ok_iff, Recorded.outcome_pure, Except.ok.injEq]
    constructor
    · rintro ⟨found, holds, accepted, rfl⟩
      exact ⟨holds, accepted⟩
    · rintro ⟨holds, accepted⟩
      exact ⟨roots, holds, accepted, rfl⟩
  rw [readRoots, Recorded.bind_ok_iff]
  refine exists_congr fun file => ?_
  rw [readMaterial_ok_iff]
  split
  · rw [Recorded.unit_bind_ok_iff, Recorded.outcome_note, others]
    exact ⟨fun ⟨loaded, _, holds, accepted⟩ => ⟨loaded, holds, accepted⟩,
      fun ⟨loaded, holds, accepted⟩ => ⟨loaded, rfl, holds, accepted⟩⟩
  · rw [others]
    exact ⟨fun ⟨loaded, holds, accepted⟩ => ⟨loaded, holds, accepted⟩,
      fun ⟨loaded, holds, accepted⟩ => ⟨loaded, holds, accepted⟩⟩

/-- A context consists of the pieces that are asked for, every one of them found and accepted. -/
structure Context.Made
    (acceptance : Acceptance)
    (settings : Settings)
    (source : MaterialSource)
    (context : Context) : Prop where
  keystore :
    ∃ file,
      Keystore acceptance settings source context.certificates context.key
        file
  verifies : context.clientAuth = .verify ↔ settings.enableTwoWayTls = true
  truststore :
    settings.enableTwoWayTls = true →
      ∃ file, Truststore acceptance settings source context.roots file
  noRoots : settings.enableTwoWayTls = false → context.roots = []
  offers : context.protocols = offeredProtocols
  version :
    ∀ version, settings.tlsProtocol = some version → version ∈ tlsVersions
  paired : acceptance.pair context.certificates context.key = .ok ()

/-! ## Both ways of making a context -/

/-- Go on with what the keystore holds. -/
def withKeystore
    (acceptance : Acceptance)
    (settings : Settings)
    (source : MaterialSource)
    (next : List Bytes → PrivateKey → Recorded HostError Context) :
    Recorded HostError Context := do
  let keystore ← readMaterial source settings.keystoreName
  let certificates ← readCertificates acceptance settings.keystoreName keystore
  let key ←
    readKey acceptance settings.keystoreName keystore (keyPassword? settings)
  next certificates key

/-- Check the pair and report the context, once everything is read. -/
def conclude
    (acceptance : Acceptance)
    (settings : Settings)
    (clientAuth : ClientAuth)
    (certificates : List Bytes)
    (key : PrivateKey)
    (roots : List Bytes) :
    Recorded HostError Context := do
  orFail settings.keystoreName (acceptance.pair certificates key)
  .note (tlsEvent .info "TLS context created"
    [("keystore", .text settings.keystoreName),
      ("client_auth", .text clientAuth.label),
      ("protocol", .text (versionsText settings))])
  return { clientAuth, protocols := offeredProtocols, certificates, key, roots }

/-- What is said when clients need not show certificates. -/
def trustWarning (settings : Settings) : Entry :=
  tlsEvent .warn
    "Two-way TLS disabled: client certificates are not validated, every client is trusted"
    [("keystore", .text settings.keystoreName)]

/-- With two-way TLS the truststore is read after the keystore. -/
theorem build_of_twoWay
    (twoWay : settings.enableTwoWayTls = true) :
    Context.build acceptance settings source =
      withKeystore acceptance settings source (fun certificates key => do
        let roots ← readRoots acceptance settings source
        checkVersion settings
        conclude acceptance settings .verify certificates key roots) := by
  simp only [Context.build, twoWay, ↓reduceIte, reduceCtorEq]
  rfl

/-- Without two-way TLS the truststore is not read and a warning says so. -/
theorem build_of_oneWay
    (oneWay : settings.enableTwoWayTls = false) :
    Context.build acceptance settings source =
      withKeystore acceptance settings source (fun certificates key => do
        checkVersion settings
        .note (trustWarning settings)
        conclude acceptance settings .trustAll certificates key []) := by
  simp only [Context.build, oneWay, Bool.false_eq_true, ↓reduceIte]
  rfl

/-- The keystore is used when it is usable and what it is used for succeeds. -/
theorem withKeystore_ok_iff
    {next : List Bytes → PrivateKey → Recorded HostError Context}
    {context : Context} :
    (withKeystore acceptance settings source next).outcome = .ok context ↔
      ∃ file certificates key,
        Keystore acceptance settings source certificates key file ∧
          (next certificates key).outcome = .ok context := by
  rw [withKeystore, Recorded.bind_ok_iff]
  refine exists_congr fun file => ?_
  rw [readMaterial_ok_iff, Recorded.bind_ok_iff]
  constructor
  · rintro ⟨loaded, certificates, chain, outcome⟩
    obtain ⟨key, holdsKey, outcome⟩ := Recorded.bind_ok_iff.mp outcome
    exact ⟨certificates, key,
      ⟨loaded, readCertificates_ok_iff.mp chain, readKey_ok_iff.mp holdsKey⟩,
      outcome⟩
  · rintro ⟨certificates, key, keystore, outcome⟩
    exact ⟨keystore.loaded, certificates,
      readCertificates_ok_iff.mpr keystore.chain,
      Recorded.bind_ok_iff.mpr
        ⟨key, readKey_ok_iff.mpr keystore.key, outcome⟩⟩

/-- The context is made when certificates and key belong together. -/
theorem conclude_ok_iff
    {clientAuth : ClientAuth}
    {certificates roots : List Bytes}
    {key : PrivateKey}
    {context : Context} :
    (conclude acceptance settings clientAuth certificates key roots).outcome =
        .ok context ↔
      acceptance.pair certificates key = .ok () ∧
        { clientAuth, protocols := offeredProtocols, certificates, key,
          roots } = context := by
  simp only [conclude, Recorded.unit_bind_ok_iff, orFail_ok_iff,
    Recorded.outcome_note, Recorded.outcome_pure, Except.ok.injEq, true_and]

/-! ## A context, or somebody to blame -/

/-- A context is built exactly when it can be made of the settings. -/
theorem build_ok_iff
    {context : Context} :
    (Context.build acceptance settings source).outcome = .ok context ↔
      context.Made acceptance settings source := by
  cases twoWay : settings.enableTwoWayTls with
  | true =>
      rw [build_of_twoWay twoWay, withKeystore_ok_iff]
      constructor
      · rintro ⟨file, certificates, key, keystore, outcome⟩
        obtain ⟨roots, found, outcome⟩ := Recorded.bind_ok_iff.mp outcome
        obtain ⟨version, outcome⟩ := Recorded.unit_bind_ok_iff.mp outcome
        obtain ⟨paired, rfl⟩ := conclude_ok_iff.mp outcome
        exact {
          keystore := ⟨file, keystore⟩
          verifies := by simp [twoWay]
          truststore := fun _ => readRoots_ok_iff.mp found
          noRoots := by simp [twoWay]
          offers := rfl
          version := checkVersion_ok_iff.mp version
          paired }
      · intro made
        obtain ⟨file, keystore⟩ := made.keystore
        refine ⟨file, _, _, keystore, Recorded.bind_ok_iff.mpr
          ⟨context.roots, readRoots_ok_iff.mpr (made.truststore twoWay),
            Recorded.unit_bind_ok_iff.mpr
              ⟨checkVersion_ok_iff.mpr made.version,
                conclude_ok_iff.mpr ⟨made.paired, ?_⟩⟩⟩⟩
        rw [← made.verifies.mpr twoWay, ← made.offers]
  | false =>
      rw [build_of_oneWay twoWay, withKeystore_ok_iff]
      constructor
      · rintro ⟨file, certificates, key, keystore, outcome⟩
        obtain ⟨version, outcome⟩ := Recorded.unit_bind_ok_iff.mp outcome
        obtain ⟨-, outcome⟩ := Recorded.unit_bind_ok_iff.mp outcome
        obtain ⟨paired, rfl⟩ := conclude_ok_iff.mp outcome
        exact {
          keystore := ⟨file, keystore⟩
          verifies := by simp [twoWay]
          truststore := by simp [twoWay]
          noRoots := fun _ => rfl
          offers := rfl
          version := checkVersion_ok_iff.mp version
          paired }
      · intro made
        obtain ⟨file, keystore⟩ := made.keystore
        have trusts : context.clientAuth = .trustAll := by
          cases clientAuth : context.clientAuth with
          | trustAll =>
              rfl
          | verify =>
              rw [made.verifies.mp clientAuth] at twoWay
              cases twoWay
        refine ⟨file, _, _, keystore,
          Recorded.unit_bind_ok_iff.mpr
            ⟨checkVersion_ok_iff.mpr made.version,
              Recorded.unit_bind_ok_iff.mpr
                ⟨rfl, conclude_ok_iff.mpr ⟨made.paired, ?_⟩⟩⟩⟩
        rw [← trusts, ← made.offers, ← made.noRoots twoWay]

/-- Why there is no context. -/
inductive Context.Refused
    (acceptance : Acceptance)
    (settings : Settings)
    (source : MaterialSource) : HostError → Prop where
  /-- Something is wrong with the keystore. -/
  | keystore
      (reason : String) :
      Refused acceptance settings source
        (.keyMaterial settings.keystoreName reason)
  /-- Something is wrong with the truststore, which is wanted; the keystore is fine. -/
  | truststore
      (reason : String)
      (twoWay : settings.enableTwoWayTls = true)
      (keystore :
        ∃ file certificates key,
          Keystore acceptance settings source certificates key file) :
      Refused acceptance settings source
        (.keyMaterial settings.truststoreName reason)
  /-- A version is asked for that is not supported. -/
  | version
      (version : String)
      (asked : settings.tlsProtocol = some version)
      (unsupported : version ∉ tlsVersions) :
      Refused acceptance settings source
        (.configuration [.tlsVersionRefused version])

/-- To blame the keystore is to refuse the context. -/
theorem refused_of_blames
    {failure : HostError}
    (blames : Blames settings.keystoreName failure) :
    Context.Refused acceptance settings source failure := by
  obtain ⟨reason, rfl⟩ := blames
  exact .keystore reason

/-- An unknown version refuses the context. -/
theorem refused_checkVersion
    (acceptance : Acceptance)
    (settings : Settings)
    (source : MaterialSource) :
    (checkVersion settings).Fails
      (Context.Refused acceptance settings source) := by
  unfold checkVersion
  split
  · exact Recorded.fails_pure ()
  · next version asked =>
      split
      · exact Recorded.fails_pure ()
      · next unsupported =>
          exact Recorded.fails_fail
            (.version version asked (by simpa using unsupported))

/-- Certificates and a key that do not belong together refuse the context. -/
theorem refused_conclude
    (acceptance : Acceptance)
    (settings : Settings)
    (source : MaterialSource)
    (clientAuth : ClientAuth)
    (certificates : List Bytes)
    (key : PrivateKey)
    (roots : List Bytes) :
    (conclude acceptance settings clientAuth certificates key roots).Fails
      (Context.Refused acceptance settings source) :=
  Recorded.fails_bind
    ((blames_orFail _ _).mono fun _ => refused_of_blames) fun _ _ =>
      Recorded.fails_bind (Recorded.fails_note _) fun _ _ =>
        Recorded.fails_pure _

/-- What fails with the keystore refuses the context. -/
theorem refused_withKeystore
    {next : List Bytes → PrivateKey → Recorded HostError Context}
    (nextFails :
      ∀ file certificates key,
        Keystore acceptance settings source certificates key file →
          (next certificates key).Fails
            (Context.Refused acceptance settings source)) :
    (withKeystore acceptance settings source next).Fails
      (Context.Refused acceptance settings source) := by
  refine Recorded.fails_bind
    ((blames_readMaterial _ _).mono fun _ => refused_of_blames)
    fun file loaded => ?_
  refine Recorded.fails_bind
    ((blames_readCertificates _ _ _).mono fun _ => refused_of_blames)
    fun certificates chain => ?_
  refine Recorded.fails_bind
    ((blames_readKey _ _ _ _).mono fun _ => refused_of_blames)
    fun key holdsKey => ?_
  exact nextFails file certificates key
    ⟨readMaterial_ok_iff.mp loaded, readCertificates_ok_iff.mp chain,
      readKey_ok_iff.mp holdsKey⟩

/-- A context that is not built is refused. -/
theorem refused_build
    (acceptance : Acceptance)
    (settings : Settings)
    (source : MaterialSource) :
    (Context.build acceptance settings source).Fails
      (Context.Refused acceptance settings source) := by
  cases twoWay : settings.enableTwoWayTls with
  | true =>
      rw [build_of_twoWay twoWay]
      refine refused_withKeystore fun file certificates key keystore => ?_
      refine Recorded.fails_bind
        ((blames_readRoots _ _ _).mono fun failure blames => ?_)
        fun roots _ => ?_
      · obtain ⟨reason, rfl⟩ := blames
        exact .truststore reason twoWay ⟨file, certificates, key, keystore⟩
      · exact Recorded.fails_bind (refused_checkVersion _ _ _) fun _ _ =>
          refused_conclude _ _ _ _ _ _ _
  | false =>
      rw [build_of_oneWay twoWay]
      refine refused_withKeystore fun file certificates key _ => ?_
      exact Recorded.fails_bind (refused_checkVersion _ _ _) fun _ _ =>
        Recorded.fails_bind (Recorded.fails_note _) fun _ _ =>
          refused_conclude _ _ _ _ _ _ _

/-! ## Without two-way TLS -/

/-- Without two-way TLS no part of the truststore matters. -/
theorem build_of_agree
    {name password : String}
    {other : MaterialSource}
    (oneWay : settings.enableTwoWayTls = false)
    (agree : other settings.keystoreName = source settings.keystoreName) :
    Context.build acceptance
        { settings with truststoreName := name, truststorePass := password }
        other =
      Context.build acceptance settings source := by
  rw [build_of_oneWay oneWay, build_of_oneWay (by exact oneWay)]
  unfold withKeystore readMaterial
  dsimp only
  rw [agree]
  rfl

/-- Without two-way TLS a context is not built without the warning. -/
theorem trustWarning_mem_build
    {context : Context}
    (oneWay : settings.enableTwoWayTls = false)
    (built :
      (Context.build acceptance settings source).outcome = .ok context) :
    trustWarning settings ∈
      (Context.build acceptance settings source).journal := by
  rw [build_of_oneWay oneWay] at built ⊢
  unfold withKeystore at built ⊢
  obtain ⟨keystore, loaded, built⟩ := Recorded.bind_ok_iff.mp built
  obtain ⟨certificates, chain, built⟩ := Recorded.bind_ok_iff.mp built
  obtain ⟨key, holdsKey, built⟩ := Recorded.bind_ok_iff.mp built
  obtain ⟨version, built⟩ := Recorded.unit_bind_ok_iff.mp built
  refine Recorded.mem_journal_bind loaded ?_
  refine Recorded.mem_journal_bind chain ?_
  refine Recorded.mem_journal_bind holdsKey ?_
  refine Recorded.mem_journal_bind version ?_
  exact List.mem_append_left _ (List.mem_singleton.mpr rfl)

/--
Making a context never falls back to something weaker: what is made consists of the
pieces asked for, and where one is missing or refused there is a failure that says which.
-/
theorem Context.build_neverFallsBack
    (acceptance : Acceptance)
    (settings : Settings)
    (source : MaterialSource) :
    (∀ context,
        (Context.build acceptance settings source).outcome = .ok context ↔
          context.Made acceptance settings source) ∧
      (∀ failure,
        (Context.build acceptance settings source).outcome =
            .error failure →
          Context.Refused acceptance settings source failure) ∧
      (∀ password,
        keyPassword? settings = some password ↔
          password ≠ "" ∧
            password =
              if settings.keyPass ≠ "" then settings.keyPass
              else settings.keystorePass) ∧
      (keyPassword? settings = none ↔
        settings.keyPass = "" ∧ settings.keystorePass = "") ∧
      (settings.enableTwoWayTls = false →
        (∀ context,
          (Context.build acceptance settings source).outcome =
              .ok context →
            trustWarning settings ∈
              (Context.build acceptance settings source).journal) ∧
          ∀ (name password : String) (other : MaterialSource),
            other settings.keystoreName = source settings.keystoreName →
              Context.build acceptance
                  { settings with
                    truststoreName := name, truststorePass := password }
                  other =
                Context.build acceptance settings source) :=
  ⟨fun _ => build_ok_iff,
    refused_build acceptance settings source,
    fun _ => keyPassword?_eq_some_iff,
    keyPassword?_eq_none_iff,
    fun oneWay =>
      ⟨fun _ => trustWarning_mem_build oneWay,
        fun _ _ _ => build_of_agree oneWay⟩⟩

end PluggableHost.Tls
