import PluggableHost.Config.Problem

namespace PluggableHost.Config

open PluggableHost.Net

/-!
# What settings without problems are sure to have

Validation looks at every setting that the rest of a host relies on.  Here is what
the host may rely on, stated without the checks.
-/

/-- What a host relies on in its settings. -/
structure Settings.Dependable
    (settings : Settings) : Prop where
  address : ∃ host, IpAddress.parse? settings.ip = some host
  port :
    ∀ protocol,
      settings.enables protocol = true → settings.port protocol ≠ 0
  apart :
    settings.enableHttp = true → settings.enableHttps = true →
      settings.httpPort ≠ settings.httpsPort
  version :
    ∀ version, settings.tlsProtocol = some version → version ∈ tlsVersions

/-- There is no problem if its condition does not hold. -/
theorem when_eq_nil_iff
    {condition : Bool}
    {problem : Problem} :
    Problem.when condition problem = [] ↔ condition = false := by
  cases condition <;>
    simp [Problem.when]

/-- Settings without problems can be depended on. -/
theorem dependable_of_isValid
    {settings : Settings}
    (valid : settings.isValid = true) :
    settings.Dependable := by
  simp only [Settings.isValid, Settings.problems, List.isEmpty_iff,
    List.append_eq_nil_iff, when_eq_nil_iff] at valid
  obtain ⟨⟨⟨⟨⟨⟨⟨⟨address, plain⟩, tls⟩, -⟩, -⟩, same⟩, -⟩, version⟩, -⟩ :=
    valid
  constructor
  · exact Option.isSome_iff_exists.mp
      (Option.isNone_eq_false_iff.mp address)
  · intro protocol enabled
    cases protocol with
    | plain =>
        have asked : settings.enableHttp = true := enabled
        simpa [Settings.port, asked] using plain
    | tls =>
        have asked : settings.enableHttps = true := enabled
        simpa [Settings.port, asked] using tls
  · intro plainEnabled tlsEnabled
    simpa [plainEnabled, tlsEnabled] using same
  · intro asked found
    rw [found] at version
    simpa [when_eq_nil_iff] using version

/-- No two listeners ask for the same port. -/
theorem Settings.Dependable.nodup_ports
    {settings : Settings}
    (dependable : settings.Dependable) :
    (settings.enabledProtocols.map settings.port).Nodup := by
  have apart := dependable.apart
  cases plain : settings.enableHttp <;>
    cases tls : settings.enableHttps <;>
      simp_all [Settings.enabledProtocols, Settings.enables, Settings.port]

end PluggableHost.Config
