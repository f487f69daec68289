import PluggableHost.Proofs.Net.Authority
import PluggableHost.Registry.Endpoint

namespace PluggableHost.Registry

open PluggableHost.Net

/-!
# Endpoints as they are shown

An endpoint is shown as a URL, whatever its service is called.  Who reads the URL finds
the scheme, the host and the port of the endpoint in it, since the name of the service
does not get out of the path.
-/

variable
  {toAscii : String → Option String}
  {endpoint other : Endpoint}

/-- A URL that an endpoint is shown as, and that says where the endpoint is. -/
structure Endpoint.ShownAs
    (toAscii : String → Option String)
    (endpoint : Endpoint)
    (location : Location) : Prop where
  made : endpoint.location? toAscii = some location
  shown : endpoint.shown toAscii = location.text
  reread : Location.read? toAscii location.text = some location
  protocol : location.protocol = endpoint.protocol
  host : location.host = .address endpoint.host
  /-- The port is written, or is the one that the scheme leaves out. -/
  port :
    location.port =
      if endpoint.port = endpoint.protocol.defaultPort then none
      else some endpoint.port
  knownPort : location.knownPort = endpoint.port
  /-- The name of the service is in the path, and in no other part. -/
  path : location.path = Url.pathOf endpoint.serviceId
  bare :
    location.username = "" ∧ location.password = "" ∧
      location.query = none ∧ location.fragment = none

/-- The location of a URL is displayed as the URL is. -/
theorem text_location (url : Url) :
    url.location.text = url.text := by
  obtain ⟨protocol, host, port, path⟩ := url
  cases port <;>
    simp [Url.location, Location.text, Location.credentialsText,
      Location.hostText, Url.text, Url.authority]

/-- Scheme and socket make a URL, and with its path it is the URL of the endpoint. -/
theorem location?_eq
    (toAscii : String → Option String)
    (endpoint : Endpoint) :
    endpoint.location? toAscii = some endpoint.url.location := by
  have read :=
    read?_socket toAscii endpoint.protocol endpoint.host endpoint.port
  have made :
      endpoint.location? toAscii =
        (Location.read? toAscii
            (endpoint.protocol.scheme ++ "://" ++
              SocketAddress.text
                { host := endpoint.host, port := endpoint.port })).map
          fun location => location.withPath endpoint.serviceId :=
    rfl
  rw [made, read]
  by_cases default : endpoint.port = endpoint.protocol.defaultPort <;>
    simp [default, Option.filter, Location.withPath, Url.location,
      Endpoint.url, Url.ofSocket]

/-- An endpoint is shown as the location of its URL. -/
theorem shownAs_url
    (toAscii : String → Option String)
    (endpoint : Endpoint) :
    endpoint.ShownAs toAscii endpoint.url.location where
  made := location?_eq toAscii endpoint
  shown := by rw [Endpoint.shown, location?_eq]
  reread := by
    rw [text_location]
    exact
      read?_text toAscii endpoint.protocol endpoint.host endpoint.port
        endpoint.serviceId
  protocol := rfl
  host := rfl
  port := rfl
  knownPort :=
    Url.knownPort_ofSocket endpoint.protocol endpoint.host endpoint.port
      endpoint.serviceId
  path := rfl
  bare := ⟨rfl, rfl, rfl, rfl⟩

/-- The text that is shown says what the URL is. -/
theorem Endpoint.ShownAs.unique
    {first second : Location}
    (one : endpoint.ShownAs toAscii first)
    (another : other.ShownAs toAscii second)
    (same : other.shown toAscii = endpoint.shown toAscii) :
    second = first := by
  have text : second.text = first.text := by
    rw [← another.shown, ← one.shown, same]
  have reread := another.reread
  rw [text, one.reread] at reread
  exact (Option.some.inj reread).symm

/--
Every endpoint is shown as a URL, which says the endpoint's scheme, host and port, and
endpoints that are shown alike have the same scheme, host and port.
-/
theorem showsAuthority
    (toAscii : String → Option String)
    (endpoint : Endpoint) :
    (∃ location,
        endpoint.ShownAs toAscii location ∧
          endpoint.shown toAscii = endpoint.text) ∧
      ∀ other : Endpoint,
        other.shown toAscii = endpoint.shown toAscii →
        other.protocol = endpoint.protocol ∧
          other.host = endpoint.host ∧
          other.port = endpoint.port := by
  have shownAs := shownAs_url toAscii endpoint
  refine ⟨⟨_, shownAs, shownAs.shown.trans (text_location _)⟩,
    fun other same => ?_⟩
  have another := shownAs_url toAscii other
  have locations := shownAs.unique another same
  refine ⟨?_, ?_, ?_⟩
  · rw [← another.protocol, locations, shownAs.protocol]
  · have hosts : UrlHost.address other.host = .address endpoint.host := by
      rw [← another.host, locations, shownAs.host]
    exact UrlHost.address.inj hosts
  · rw [← another.knownPort, locations, shownAs.knownPort]

end PluggableHost.Registry
