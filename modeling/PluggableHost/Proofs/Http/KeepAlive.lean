import PluggableHost.Http.Wire
import PluggableHost.Proofs.Http.Presentation

namespace PluggableHost.Http

open PluggableHost.Config PluggableHost.Plugin

/-!
# Kept connections that are not advertised

A `connection` header lists options, on one line or on several, in any case and with
blanks around them.  A service that does not advertise kept connections has to drop one
of these options and no other.  It looks at the first line as a whole: where this says
`keep-alive` and nothing else it drops all lines, and otherwise none.
-/

variable {σ : Type}

/-- The options that one line of a `connection` header lists, in lower case. -/
def listedOptions (value : String) : List String :=
  let lower := value.toList.map Char.toLower
  (((lower.splitOn ',').map withoutPadding).filter
      fun option => option ≠ []).map String.ofList

/-- The options that all lines of the `connection` header list. -/
def connectionOptions (headers : Headers) : List String :=
  (headers.values "connection").flatMap listedOptions

/-- Kept connections are no longer advertised, and every other option is still there. -/
structure StripsKeepAlive (before after : Headers) : Prop where
  unadvertised : after.values "keep-alive" = []
  stripped : "keep-alive" ∉ connectionOptions after
  spared :
    ∀ option ∈ connectionOptions before,
      option ≠ "keep-alive" → option ∈ connectionOptions after

/-- The first line of the `connection` header says `keep-alive` and nothing else. -/
def leadsWithKeepAlive (headers : Headers) : Bool :=
  (headers.first? "connection").any isKeepAlive

/-- A value advertises a kept connection if it says just that, in letters of either case. -/
theorem isKeepAlive_iff {value : String} :
    isKeepAlive value = true ↔
      value.toList.map Char.toLower = "keep-alive".toList := by
  have lower : value.toLower = value.map Char.toLower := rfl
  rw [isKeepAlive, decide_eq_true_eq, ← String.toList_inj, lower,
    String.toList_map]

/-- A value that advertises a kept connection lists nothing else. -/
theorem listedOptions_of_isKeepAlive
    {value : String}
    (advertises : isKeepAlive value = true) :
    listedOptions value = ["keep-alive"] := by
  rw [listedOptions, isKeepAlive_iff.mp advertises]
  decide

/-- Where the first line says `keep-alive` and nothing else, this option is listed. -/
theorem mem_connectionOptions_of_leads
    {headers : Headers}
    (leads : leadsWithKeepAlive headers = true) :
    "keep-alive" ∈ connectionOptions headers := by
  obtain ⟨value, first, advertises⟩ := Option.any_eq_true _ _ |>.mp leads
  refine List.mem_flatMap.mpr ⟨value, List.mem_of_mem_head? first, ?_⟩
  rw [listedOptions_of_isKeepAlive advertises]
  exact List.mem_singleton_self _

/-- The options are all dropped, or all kept, as the first line says. -/
theorem connectionOptions_withoutKeepAlive (headers : Headers) :
    connectionOptions (withoutKeepAlive headers) =
      if leadsWithKeepAlive headers then [] else connectionOptions headers := by
  unfold connectionOptions
  rw [values_withoutKeepAlive_connection]
  unfold leadsWithKeepAlive
  split <;> rfl

/--
Nothing but the option is dropped exactly where it is not listed, or is all that is
listed: otherwise all lines go, and another option with them.
-/
theorem stripsKeepAlive_iff (headers : Headers) :
    StripsKeepAlive headers (withoutKeepAlive headers) ↔
      "keep-alive" ∉ connectionOptions headers ∨
        (leadsWithKeepAlive headers = true ∧
          ∀ option ∈ connectionOptions headers, option = "keep-alive") := by
  have options := connectionOptions_withoutKeepAlive headers
  cases leads : leadsWithKeepAlive headers with
  | false =>
      rw [leads, if_neg Bool.false_ne_true] at options
      constructor
      · intro strips
        exact .inl (options ▸ strips.stripped)
      · rintro (unlisted | ⟨otherwise, -⟩)
        · exact
            { unadvertised := values_withoutKeepAlive_self headers
              stripped := by rwa [options]
              spared := fun option listed _ => by rwa [options] }
        · cases otherwise
  | true =>
      rw [leads, if_pos rfl] at options
      constructor
      · intro strips
        refine .inr ⟨rfl, fun option listed => ?_⟩
        by_contra other
        have still := strips.spared option listed other
        rw [options] at still
        exact List.not_mem_nil still
      · rintro (unlisted | ⟨-, only⟩)
        · exact absurd (mem_connectionOptions_of_leads leads) unlisted
        · exact
            { unadvertised := values_withoutKeepAlive_self headers
              stripped := by simp [options]
              spared := fun option listed other =>
                absurd (only option listed) other }

/-- Whether it was dropped shows in the two headers that may advertise it. -/
theorem StripsKeepAlive.congr
    {before after others : Headers}
    (same :
      ∀ name ∈ ["connection", "keep-alive"],
        after.values name = others.values name)
    (strips : StripsKeepAlive before after) :
    StripsKeepAlive before others := by
  have connection := same "connection" (by decide)
  have options : connectionOptions after = connectionOptions others := by
    rw [connectionOptions, connection]
    rfl
  exact
    { unadvertised := same "keep-alive" (by decide) ▸ strips.unadvertised
      stripped := options ▸ strips.stripped
      spared := options ▸ strips.spared }

/--
A service that does not advertise kept connections never answers with a `keep-alive`
header.  It drops this option of the `connection` header, and none of the others,
exactly where the chain has not listed the option, or has listed nothing else and has
put it on a line of its own first.
-/
theorem stripsKeepAliveWhenAlone
    (settings : Settings)
    (quiet : settings.alwaysSetKeepAlive = false)
    (countable : settings.workerThreads.toNat ≤ mostPermits)
    (house : House σ)
    (chain : Chain σ)
    (shared : σ)
    (schedule : List (Occasion σ)) :
    let number := house.services.length
    let later := (house.after (.build settings chain shared)).run schedule
    ∃ service,
      later.services[number]? = some service ∧
        ∀ number response,
          service.reception.limiter.guests[number]? =
            some (.answered response) →
          ∃ request answer,
            service.requests[number]? = some request ∧
              (chain.head request).ComesTo
                (deedsOf number service.reception.log) answer ∧
              response.headers.values "keep-alive" = [] ∧
              connectionOptions response.headers =
                (if leadsWithKeepAlive answer.headers then []
                else connectionOptions answer.headers) ∧
              (StripsKeepAlive answer.headers response.headers ↔
                "keep-alive" ∉ connectionOptions answer.headers ∨
                  (leadsWithKeepAlive answer.headers = true ∧
                    ∀ option ∈ connectionOptions answer.headers,
                      option = "keep-alive")) := by
  intro number later
  obtain ⟨service, there, kept⟩ :=
    keeps_of_countable house countable chain shared schedule
  refine ⟨service, there, fun number response answered => ?_⟩
  obtain ⟨request, answer, received, came, rfl⟩ := kept.answered answered
  rw [kept.chained] at came
  rw [kept.postured]
  have spared :
      (Posture.ofCountable settings).spared answer.headers =
        withoutKeepAlive answer.headers := by
    rw [Posture.spared, if_neg]
    exact Bool.eq_false_iff.mp quiet
  have same :
      ∀ name ∈ ["connection", "keep-alive"],
        (((Posture.ofCountable settings).apply request.method
            answer).headers.values name =
          (withoutKeepAlive answer.headers).values name) := by
    intro name member
    rw [values_apply_of_ne, spared] <;> rintro rfl <;> simp at member
  refine ⟨request, answer, received, came, ?_, ?_, ?_⟩
  · rw [same _ (by decide), values_withoutKeepAlive_self]
  · rw [← connectionOptions_withoutKeepAlive, connectionOptions,
      same _ (by decide)]
    rfl
  · rw [← stripsKeepAlive_iff]
    exact
      ⟨.congr same, .congr fun name member => (same name member).symm⟩

/-- An option on a line of its own is dropped. -/
theorem stripsKeepAliveWhenAlone_single :
    let answer : Response :=
      { headers :=
          { lines :=
              [("connection", "Keep-Alive"), ("keep-alive", "timeout=5")] } }
    let house := House.alone {} answer
    ∃ service response,
      house.services[0]? = some service ∧
        service.reception.limiter.guests[0]? = some (.answered response) ∧
        StripsKeepAlive answer.headers response.headers := by
  intro answer house
  obtain ⟨service, there, -, answered⟩ :=
    answered_alone {} (by decide) (by decide) answer
  obtain ⟨same, found, strips⟩ :=
    stripsKeepAliveWhenAlone {} rfl (by decide) {} (constantChain answer) ()
      [.receive 0 {}, .ask 0 0, .act 0 0]
  obtain rfl : service = same := Option.some.inj (there.symm.trans found)
  obtain ⟨request, reply, received, came, -, -, strips⟩ :=
    strips 0 _ answered
  obtain ⟨-, rfl⟩ := Activity.comesTo_pure.mp came
  exact ⟨service, _, there, answered,
    strips.mpr (.inr ⟨isKeepAlive_iff.mpr (by decide), by decide⟩)⟩

/-- An option behind another one stays. -/
theorem not_stripsKeepAlive_second :
    let answer : Response :=
      { headers :=
          { lines := [("connection", "upgrade"), ("connection", "keep-alive")] }
        body := "OK" }
    let house := House.alone {} answer
    ∃ service response,
      house.services[0]? = some service ∧
        service.reception.limiter.guests[0]? = some (.answered response) ∧
        "keep-alive" ∈ connectionOptions response.headers ∧
        ¬ StripsKeepAlive answer.headers response.headers := by
  intro answer house
  obtain ⟨service, there, -, answered⟩ :=
    answered_alone {} (by decide) (by decide) answer
  have leads : leadsWithKeepAlive answer.headers = false :=
    Bool.eq_false_iff.mpr (mt isKeepAlive_iff.mp (by decide))
  have kept := connectionOptions_withoutKeepAlive answer.headers
  have still :
      "keep-alive" ∈
        connectionOptions
          ((Posture.ofCountable {}).apply "GET" answer).headers := by
    rw [connectionOptions, values_apply_of_ne _ _ _ (by decide) (by decide)]
    change _ ∈ connectionOptions (withoutKeepAlive answer.headers)
    rw [kept, leads]
    decide
  exact ⟨service, _, there, answered, still,
    fun strips => strips.stripped still⟩

end PluggableHost.Http
