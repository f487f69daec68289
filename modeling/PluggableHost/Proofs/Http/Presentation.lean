import PluggableHost.Proofs.Http.Twins
import PluggableHost.Proofs.Text.Utf8

namespace PluggableHost.Http

open PluggableHost.Config PluggableHost.Plugin PluggableHost.Text

/-!
# How answers are presented

A response is what the chain has answered, except for what the settings say about it:
one `server` header, kept connections advertised or not, and a stated length.  The
number of workers and the time of requests do not show in it.
-/

variable
  {σ : Type}
  {posture : Posture}
  {method name : String}
  {response : Response}

/-- A text can be sent in a header: the tab is the only control character in it. -/
def IsSendable (text : String) : Prop :=
  ∀ character ∈ text.toList,
    character = '\t' ∨ (32 ≤ character.toNat ∧ character.toNat ≠ 127)

/-- Whether a text can be sent is decided character by character. -/
instance (text : String) : Decidable (IsSendable text) :=
  List.decidableBAll _ text.toList

/-- The connection becomes a tunnel, so that the response has no body. -/
def opensTunnel
    (method : String)
    (status : Nat) : Bool :=
  method = "CONNECT" && 200 ≤ status && status < 300

/-- What the settings let a response keep of an answer, and what they put into it. -/
structure Presents
    (settings : Settings)
    (method : String)
    (answer response : Response) : Prop where
  status : response.status = answer.status
  /-- There is one `server` header, whatever the answer says. -/
  server :
    IsSendable settings.serverString →
      response.headers.values "server" = [settings.serverString]
  defaulted :
    ¬ IsSendable settings.serverString →
      response.headers.values "server" = ["service-host"]
  kept :
    ∀ name,
      name ∉ ["server", "connection", "keep-alive", "content-length"] →
      response.headers.values name = answer.headers.values name
  added :
    ∀ name,
      name ∉ ["server", "content-length"] →
      response.headers.has name = true → answer.headers.has name = true
  advertised :
    settings.alwaysSetKeepAlive = true →
    ∀ name ∈ ["connection", "keep-alive"],
      response.headers.values name = answer.headers.values name
  length :
    response.headers.values "content-length" =
      if opensTunnel method answer.status || statesLength answer.headers then
        answer.headers.values "content-length"
      else [bodyLength answer.body]
  body :
    response.body =
      if opensTunnel method answer.status || method = "HEAD" then ""
      else answer.body

/-- Whatever the service has answered is presented as its settings say. -/
def Service.Presents
    (settings : Settings)
    (chain : Chain σ)
    (service : Service σ) : Prop :=
  ∀ number response,
    service.reception.limiter.guests[number]? = some (.answered response) →
    ∃ request answer,
      service.requests[number]? = some request ∧
        (chain.head request).ComesTo
          (deedsOf number service.reception.log) answer ∧
        Http.Presents settings request.method answer response

/-! ## Header values -/

/-- The bytes that a header value may hold. -/
theorem isHeaderByte_iff {byte : UInt8} :
    isHeaderByte byte = true ↔
      byte.toNat = 9 ∨ (32 ≤ byte.toNat ∧ byte.toNat ≠ 127) := by
  simp only [isHeaderByte, ge_iff_le, ne_eq, Bool.or_eq_true,
    decide_eq_true_eq, Bool.and_eq_true, UInt8.le_iff_toNat_le,
    ← UInt8.toNat_inj]
  rfl

/-- The bytes of a character can be sent when it is no control character but the tab. -/
theorem all_isHeaderByte_iff {character : Char} :
    (String.utf8EncodeChar character).all isHeaderByte = true ↔
      character = '\t' ∨ (32 ≤ character.toNat ∧ character.toNat ≠ 127) := by
  by_cases ascii : character.toNat < 128
  · have tab : character = '\t' ↔ character.toNat = 9 :=
      Char.toNat_inj.symm
    rw [utf8EncodeChar_of_ascii ascii, List.all_cons, List.all_nil,
      Bool.and_true, isHeaderByte_iff, toNat_toUInt8 ascii, tab]
  · refine iff_of_true (List.all_eq_true.mpr fun byte member => ?_)
      (.inr (by omega))
    have beyond := le_of_mem_utf8EncodeChar (by omega) member
    exact isHeaderByte_iff.mpr (by have := byte.toNat_lt; omega)

/-- A text is a header value if it can be sent. -/
theorem isHeaderValue_iff {text : String} :
    isHeaderValue text = true ↔ IsSendable text := by
  rw [isHeaderValue, toList_toUTF8, List.all_flatMap, List.all_eq_true]
  exact forall₂_congr fun _ _ => all_isHeaderByte_iff

/-! ## The headers of a response -/

/-- What a posture leaves of the headers of an answer. -/
def Posture.spared
    (posture : Posture)
    (headers : Headers) : Headers :=
  if posture.keepsAlive then headers else withoutKeepAlive headers

/-- A response is stripped, signed by the server and framed. -/
theorem Posture.apply_eq
    (posture : Posture)
    (method : String)
    (response : Response) :
    posture.apply method response =
      framed method
        { response with
          headers :=
            (posture.spared response.headers).set "server" posture.server } :=
  rfl

/-- No parameters of a kept connection are left. -/
theorem values_withoutKeepAlive_self (headers : Headers) :
    (withoutKeepAlive headers).values "keep-alive" = [] := by
  unfold withoutKeepAlive
  dsimp only
  split
  · rw [Headers.values_erase_of_ne _ (by decide), Headers.values_erase_self]
  · exact Headers.values_erase_self _ _

/-- All lines are dropped, or none, as the first line says. -/
theorem values_withoutKeepAlive_connection (headers : Headers) :
    (withoutKeepAlive headers).values "connection" =
      if (headers.first? "connection").any isKeepAlive then []
      else headers.values "connection" := by
  have same :
      (headers.erase "keep-alive").values "connection" =
        headers.values "connection" :=
    Headers.values_erase_of_ne headers (by decide)
  unfold withoutKeepAlive Headers.first?
  dsimp only
  rw [same]
  split
  · exact Headers.values_erase_self _ _
  · exact same

/-- Two names only are affected by the stripping. -/
theorem values_withoutKeepAlive_of_ne
    (headers : Headers)
    (different : name ≠ "keep-alive")
    (other : name ≠ "connection") :
    (withoutKeepAlive headers).values name = headers.values name := by
  unfold withoutKeepAlive
  dsimp only
  split
  · rw [Headers.values_erase_of_ne _ other,
      Headers.values_erase_of_ne _ different]
  · exact Headers.values_erase_of_ne _ different

/-- Two names only are affected by what a posture spares. -/
theorem values_spared_of_ne
    (headers : Headers)
    (different : name ≠ "keep-alive")
    (other : name ≠ "connection") :
    (posture.spared headers).values name = headers.values name := by
  unfold Posture.spared
  split
  · rfl
  · exact values_withoutKeepAlive_of_ne headers different other

/-- A name keeps its values or loses all of them. -/
theorem values_spared
    (posture : Posture)
    (headers : Headers)
    (name : String) :
    (posture.spared headers).values name = headers.values name ∨
      (posture.spared headers).values name = [] := by
  unfold Posture.spared
  split
  · exact .inl rfl
  · by_cases same : name = "keep-alive"
    · rw [same]
      exact .inr (values_withoutKeepAlive_self headers)
    · by_cases line : name = "connection"
      · rw [line, values_withoutKeepAlive_connection]
        split
        · exact .inr rfl
        · exact .inl rfl
      · exact .inl (values_withoutKeepAlive_of_ne headers same line)

/-- The `server` header is put into what the posture leaves. -/
theorem values_set_spared
    (posture : Posture)
    (headers : Headers)
    (other : name ∉ ["server", "connection", "keep-alive"]) :
    ((posture.spared headers).set "server" posture.server).values name =
      headers.values name := by
  simp only [List.mem_cons, List.not_mem_nil, or_false, not_or] at other
  rw [Headers.values_set_of_ne _ _ other.1,
    values_spared_of_ne _ other.2.2 other.2.1]

/-- The length is the only header that framing affects. -/
theorem values_framed_of_ne
    (method : String)
    (response : Response)
    (different : name ≠ "content-length") :
    (framed method response).headers.values name =
      response.headers.values name := by
  unfold framed
  split
  · rfl
  · dsimp only
    split
    · rfl
    · exact Headers.values_append_of_ne _ _ different

/-- Every response has one server header, which is that of the posture. -/
theorem values_apply_server
    (posture : Posture)
    (method : String)
    (response : Response) :
    (posture.apply method response).headers.values "server" =
      [posture.server] := by
  rw [Posture.apply_eq, values_framed_of_ne _ _ (by decide)]
  exact Headers.values_set_self _ _ _

/-- Other names are as the posture leaves them. -/
theorem values_apply_of_ne
    (posture : Posture)
    (method : String)
    (response : Response)
    (different : name ≠ "server")
    (other : name ≠ "content-length") :
    (posture.apply method response).headers.values name =
      (posture.spared response.headers).values name := by
  rw [Posture.apply_eq, values_framed_of_ne _ _ other]
  exact Headers.values_set_of_ne _ _ different

/-- Headers with the same values of a name have it or lack it both. -/
theorem has_eq_of_values_eq
    {headers others : Headers}
    (same : headers.values name = others.values name) :
    headers.has name = others.has name := by
  rw [Bool.eq_iff_iff, ← Bool.not_eq_false, ← Bool.not_eq_false,
    Headers.has_eq_false_iff, Headers.has_eq_false_iff, same]

/-! ## The frame of a response -/

/-- A response that opens a tunnel loses its body and nothing else. -/
theorem framed_of_tunnel
    (tunnel : opensTunnel method response.status = true) :
    framed method response = { response with body := "" } :=
  if_pos tunnel

/-- Any other response states the length of its body. -/
theorem framed_of_not_tunnel
    (noTunnel : opensTunnel method response.status = false) :
    framed method response =
      { response with
        headers :=
          if statesLength response.headers then response.headers
          else
            response.headers.append "content-length"
              (bodyLength response.body)
        body := if method = "HEAD" then "" else response.body } :=
  if_neg (Bool.not_eq_true _ ▸ noTunnel)

/-- Framing leaves the status alone. -/
theorem status_framed
    (method : String)
    (response : Response) :
    (framed method response).status = response.status := by
  unfold framed
  split <;> rfl

/-- Framing takes the body where the method forbids one. -/
theorem body_framed
    (method : String)
    (response : Response) :
    (framed method response).body =
      if opensTunnel method response.status || method = "HEAD" then ""
      else response.body := by
  cases tunnel : opensTunnel method response.status with
  | true =>
      rw [framed_of_tunnel tunnel]
      rfl
  | false =>
      rw [framed_of_not_tunnel tunnel]
      simp

/-- The length is stated by framing unless the response has done so itself. -/
theorem length_framed
    (method : String)
    (response : Response) :
    (framed method response).headers.values "content-length" =
      if opensTunnel method response.status ||
          statesLength response.headers then
        response.headers.values "content-length"
      else [bodyLength response.body] := by
  cases tunnel : opensTunnel method response.status with
  | true =>
      rw [framed_of_tunnel tunnel]
      rfl
  | false =>
      rw [framed_of_not_tunnel tunnel]
      cases states : statesLength response.headers with
      | true => rfl
      | false =>
          have unstated : response.headers.has "content-length" = false :=
            (Bool.or_eq_false_iff.mp states).1
          have none := Headers.has_eq_false_iff.mp unstated
          simp [none]

/-! ## One request -/

/-- A chain that answers every request alike, and at once. -/
def constantChain (answer : Response) : Chain Unit :=
  { head := fun _ => .done answer, links := [] }

/-- A house with one service, where one request has come and has had its turn. -/
def House.alone
    (settings : Settings)
    (answer : Response) : House Unit :=
  (({} : House Unit).after (.build settings (constantChain answer) ())).run
    [.receive 0 {}, .ask 0 0, .act 0 0]

/-- Whoever comes alone is answered at once. -/
theorem answered_alone
    (settings : Settings)
    (positive : 1 ≤ settings.workerThreads.toNat)
    (countable : settings.workerThreads.toNat ≤ mostPermits)
    (answer : Response) :
    ∃ service,
      (House.alone settings answer).services[0]? = some service ∧
        service.requests[0]? = some ({} : Request) ∧
        service.reception.limiter.guests[0]? =
          some
            (.answered
              ((Posture.ofCountable settings).apply "GET" answer)) := by
  obtain ⟨spare, many⟩ :=
    Nat.exists_eq_succ_of_ne_zero (Nat.ne_of_gt positive)
  unfold House.alone
  rw [built_of_countable _ countable, Posture.ofCountable, many]
  exact ⟨_, rfl, rfl, rfl⟩

/-! ## Services -/

/-- The server header is the one asked for if it can be sent, and else the default. -/
theorem serverHeader_eq (asked : String) :
    (IsSendable asked → (serverHeader asked).1 = asked) ∧
      (¬ IsSendable asked → (serverHeader asked).1 = "service-host") := by
  unfold serverHeader
  constructor
  · intro sendable
    rw [if_pos (isHeaderValue_iff.mpr sendable)]
  · intro not
    rw [if_neg (mt isHeaderValue_iff.mp not)]
    rfl

/-- The posture of settings presents every answer as they say. -/
theorem presents_apply
    (settings : Settings)
    (method : String)
    (answer : Response) :
    Presents settings method answer
      ((Posture.ofCountable settings).apply method answer) := by
  constructor
  case status => rw [Posture.apply_eq, status_framed]
  case server =>
    intro sendable
    rw [values_apply_server, Posture.ofCountable,
      (serverHeader_eq settings.serverString).1 sendable]
  case defaulted =>
    intro not
    rw [values_apply_server, Posture.ofCountable,
      (serverHeader_eq settings.serverString).2 not]
  case kept =>
    intro name other
    simp only [List.mem_cons, List.not_mem_nil, or_false, not_or] at other
    obtain ⟨server, connection, keepAlive, length⟩ := other
    rw [values_apply_of_ne _ _ _ server length,
      values_spared_of_ne _ keepAlive connection]
  case added =>
    intro name other there
    simp only [List.mem_cons, List.not_mem_nil, or_false, not_or] at other
    have same :=
      values_apply_of_ne (.ofCountable settings) method answer other.1 other.2
    rw [has_eq_of_values_eq same] at there
    rcases values_spared (.ofCountable settings) answer.headers name with
      kept | lost
    · rwa [has_eq_of_values_eq kept] at there
    · rw [Headers.has_eq_false_iff.mpr lost] at there
      cases there
  case advertised =>
    intro keepsAlive name member
    have spared : (Posture.ofCountable settings).spared answer.headers = answer.headers := by
      rw [Posture.spared, if_pos]
      exact keepsAlive
    rw [values_apply_of_ne, spared] <;> rintro rfl <;> simp at member
  case length =>
    have same :
        ∀ name ∈ ["content-length", "transfer-encoding"],
          (((Posture.ofCountable settings).spared answer.headers).set "server"
              (Posture.ofCountable settings).server).values name =
            answer.headers.values name :=
      fun name member => values_set_spared _ _ (by revert name; decide)
    rw [Posture.apply_eq, length_framed, statesLength, statesLength,
      has_eq_of_values_eq (same "content-length" (by decide)),
      has_eq_of_values_eq (same "transfer-encoding" (by decide)),
      same "content-length" (by decide)]
  case body => rw [Posture.apply_eq, body_framed]

/-- A service that is kept as it was built presents what its settings ask for. -/
theorem Service.Kept.presents
    {settings : Settings}
    {chain : Chain σ}
    {service : Service σ}
    (kept : service.Kept posture chain)
    (same : (Posture.ofCountable settings).Twins posture) :
    service.Presents settings chain := by
  intro number response there
  obtain ⟨request, answer, received, came, rfl⟩ := kept.answered there
  rw [kept.chained] at came
  rw [kept.postured, ← same.apply]
  exact ⟨request, answer, received, came, presents_apply settings _ answer⟩

/--
A service answers every request that does not go away, and presents what its chain has
answered as its settings say.  Were only the number of workers another, or the time of
requests recorded or not, the same handler would be served; and it would have served
every request alike as long as both numbers are enough for all that have come.
-/
theorem presentsAnswers
    (settings : Settings)
    (positive : 1 ≤ settings.workerThreads.toNat)
    (countable : settings.workerThreads.toNat ≤ mostPermits)
    (house : House σ)
    (chain : Chain σ)
    (shared : σ)
    (schedule : List (Occasion σ)) :
    let number := house.services.length
    let served := fun settings : Settings =>
      ((house.after (.build settings chain shared)).run schedule).services[number]?
    ∃ service,
      served settings = some service ∧
        service.Presents settings chain ∧
        (∃ moves,
          (∀ move ∈ moves, Move.isPatient move = true) ∧
            ∀ (number : Nat) (guest : Guest σ Response),
              (service.reception.run moves).limiter.guests[number]? =
                some guest →
              guest.answer?.isSome = true ∨
                service.reception.limiter.guests[number]? = some .gone) ∧
        ∀ (recorded : Bool) (workers : UInt64),
          workers.toNat ≤ mostPermits →
          ∃ twin,
            served
                { settings with
                  recordRequestStartTime := recorded
                  workerThreads := workers } =
              some twin ∧
            twin.Presents settings chain ∧
            twin.posture.service chain = service.posture.service chain ∧
            twin.requests = service.requests ∧
            (service.requests.length ≤ settings.workerThreads.toNat →
              service.requests.length ≤ workers.toNat →
              twin.reception.limiter.guests =
                service.reception.limiter.guests) := by
  intro number served
  obtain ⟨service, there, kept⟩ :=
    keeps_of_countable house countable chain shared schedule
  refine ⟨service, there, kept.presents ⟨rfl, rfl⟩,
    kept.sound.exists_served positive, fun recorded workers few => ?_⟩
  have same :
      (Posture.ofCountable settings).Twins
        (.ofCountable
          { settings with
            recordRequestStartTime := recorded
            workerThreads := workers }) :=
    ⟨rfl, rfl⟩
  obtain ⟨first, twin, found, beside, twins⟩ :=
    (twins_of_countable house countable few same chain shared schedule).twins
  obtain rfl : first = service := Option.some.inj (found.symm.trans there)
  refine ⟨twin, beside, ?_, ?_, twins.requests.symm, ?_⟩
  · exact twins.keptOther.presents same
  · rw [twins.kept.postured, twins.keptOther.postured, same.service]
  · intro enough enoughOther
    obtain ⟨free, alike⟩ := twins.alike enough enoughOther
    rw [alike]

/-- A request is answered in the name that the settings give, whatever the chain says. -/
theorem presentsAnswers_named :
    let settings : Settings := { serverString := "ledger" }
    let answer : Response :=
      { headers := { lines := [("server", "a"), ("x-tag", "b"), ("server", "c")] }
        body := "OK" }
    let house := House.alone settings answer
    ∃ service response,
      house.services[0]? = some service ∧
        service.reception.limiter.guests[0]? = some (.answered response) ∧
        response.headers.values "server" = ["ledger"] ∧
        response.headers.values "x-tag" = ["b"] ∧
        response.headers.values "content-length" = ["2"] ∧
        response.body = "OK" := by
  intro settings answer house
  obtain ⟨service, there, received, answered⟩ :=
    answered_alone settings (by decide) (by decide) answer
  obtain ⟨same, found, presents, -⟩ :=
    presentsAnswers settings (by decide) (by decide) {}
      (constantChain answer) () [.receive 0 {}, .ask 0 0, .act 0 0]
  obtain rfl : service = same := Option.some.inj (there.symm.trans found)
  obtain ⟨request, reply, asked, came, presented⟩ := presents 0 _ answered
  obtain rfl : ({} : Request) = request :=
    Option.some.inj (received.symm.trans asked)
  obtain ⟨-, rfl⟩ := Activity.comesTo_pure.mp came
  refine ⟨service, _, there, answered, ?_, ?_, ?_, ?_⟩
  · exact presented.server (by decide)
  · exact (presented.kept "x-tag" (by decide)).trans rfl
  · exact presented.length.trans (by decide)
  · exact presented.body.trans rfl

/-- A name beyond ASCII is sent as it stands. -/
theorem presentsAnswers_beyondAscii :
    let settings : Settings := { serverString := "é" }
    let house := House.alone settings { body := "OK" }
    (¬ ∀ character ∈ settings.serverString.toList,
        character = '\t' ∨
          (32 ≤ character.toNat ∧ character.toNat < 127)) ∧
      ∃ service response,
        house.services[0]? = some service ∧
          service.reception.limiter.guests[0]? = some (.answered response) ∧
          response.headers.values "server" = ["é"] ∧
          response.headers.values "server" ≠ ["service-host"] := by
  intro settings house
  refine ⟨fun ascii => absurd (ascii 'é' (by decide)) (by decide), ?_⟩
  obtain ⟨service, there, -, answered⟩ :=
    answered_alone settings (by decide) (by decide) { body := "OK" }
  have named : (Posture.ofCountable settings).server = "é" :=
    (serverHeader_eq "é").1 (by decide)
  have server :=
    values_apply_server (.ofCountable settings) "GET" { body := "OK" }
  rw [named] at server
  exact ⟨service, _, there, answered, server,
    fun same => absurd (server.symm.trans same) (by decide)⟩

end PluggableHost.Http
