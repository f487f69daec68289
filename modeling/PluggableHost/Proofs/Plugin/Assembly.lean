import Mathlib.Data.List.Basic
import PluggableHost.Proofs.Observability.Writing
import PluggableHost.Proofs.Plugin.Passage

namespace PluggableHost.Plugin

open PluggableHost.Http PluggableHost.Observability

/-!
# The assembly of a chain

Assembly calls plugins one by one: providers up to the first that has a handler,
then all middleware whether they are enabled, then those that are from the innermost
outwards to wrap, then the same from the outermost inwards to join.  The head of the
chain is the root handler inside all of them.  Where no provider has a handler
nothing else is called.
-/

/-- The calls of plugins in a journal, in order. -/
def pluginCalls (journal : List Entry) : List PluginCall :=
  journal.filterMap Entry.call?

variable {σ : Type}

/-- The call by which a provider is asked for its handler. -/
def Provider.asked (provider : Provider σ) : PluginCall :=
  .askProvider provider.name provider.quiet

/-- The middleware that takes part in a chain. -/
def participants
    (middleware : List (Middleware σ)) : List (Middleware σ) :=
  middleware.filter fun link => link.enabled

namespace Middleware

/-- Ask a middleware whether it is enabled. -/
def ask (link : Middleware σ) : Recorded HostError Bool := do
  .note (.call (.askMiddleware link.name))
  .note
    (chainEvent .info "Plugin"
      [("plugin", .text link.name), ("enabled", .flag link.enabled)])
  return link.enabled

/-- Let a middleware wrap a handler. -/
def wrapping
    (next : Handler σ)
    (link : Middleware σ) : Recorded HostError (Handler σ) := do
  .note (.call (.wrap link.name))
  return link.wrap next

/-- Let a middleware join the chain. -/
def join (link : Middleware σ) : Recorded HostError Unit :=
  .note (.call (.join link.name link.quiet))

end Middleware

/-- Assembly, with what every call comes to where it is made. -/
def assembleStepwise
    (providers : List (Provider σ))
    (middleware : List (Middleware σ)) :
    Recorded HostError (Chain σ) := do
  let root ← resolveRoot providers
  .note
    (chainEvent .debug "Discovered middleware plugins"
      [("count", .number middleware.length)])
  let links ← middleware.filterM Middleware.ask
  let head ← links.reverse.foldlM Middleware.wrapping root
  links.forM Middleware.join
  return { head, links := links.map fun link => link.name }

/-- A chain is a root handler inside links, the first of them outermost. -/
structure Decorates
    (links : List (Middleware σ))
    (root : Handler σ)
    (chain : Chain σ) : Prop where
  names : chain.links = links.map fun link => link.name
  head :
    chain.head = links.foldr (fun link next => link.wrap next) root
  /-- Whatever the links do with requests and responses, they do it in this order. -/
  passes :
    ∀ logic : Middleware σ → Logic σ,
      (∀ link ∈ links, link.wrap = (logic link).around) →
      ∀ request deeds response,
        (chain.head request).ComesTo deeds response ↔
          Passage (links.map logic) root request deeds response

/-- What the assembly of a chain comes to, and by which calls. -/
structure Assembled
    (providers : List (Provider σ))
    (middleware : List (Middleware σ))
    (recorded : Recorded HostError (Chain σ)) : Prop where
  stepwise : recorded = assembleStepwise providers middleware
  fails_iff :
    ∀ failure,
      recorded.outcome = .error failure ↔
        failure = .noRouteHandler ∧
          ∀ provider ∈ providers, provider.handler = none
  /-- Without a root handler, nobody but the providers is asked. -/
  unserved :
    (∀ provider ∈ providers, provider.handler = none) →
      pluginCalls recorded.journal = providers.map Provider.asked
  /-- With a root handler, these are all the calls. -/
  served :
    ∀ earlier provider later root,
      providers = earlier ++ provider :: later →
      (∀ other ∈ earlier, other.handler = none) →
      provider.handler = some root →
      let links := participants middleware
      pluginCalls recorded.journal =
          (earlier ++ [provider]).map Provider.asked ++
            middleware.map (fun link => .askMiddleware link.name) ++
            links.reverse.map (fun link => .wrap link.name) ++
            links.map (fun link => .join link.name link.quiet) ∧
        ∃ chain,
          recorded.outcome = .ok chain ∧ Decorates links root chain

/-! ## Assembly call by call -/

/-- After a success with a journal the journal goes on. -/
theorem ok_bind
    {ε α β : Type}
    (value : α)
    (journal : List Entry)
    (next : α → Recorded ε β) :
    (⟨.ok value, journal⟩ : Recorded ε α) >>= next =
      ⟨(next value).outcome, journal ++ (next value).journal⟩ := rfl

/-- A link is asked once whether it is enabled. -/
theorem Middleware.ask_eq (link : Middleware σ) :
    link.ask = ⟨.ok link.enabled, askMiddleware [link]⟩ := rfl

/-- A link wraps what comes next in one call. -/
theorem Middleware.wrapping_eq
    (next : Handler σ)
    (link : Middleware σ) :
    link.wrapping next =
      ⟨.ok (link.wrap next), [.call (.wrap link.name)]⟩ := rfl

/-- Asking all says who participates. -/
theorem filterM_ask (middleware : List (Middleware σ)) :
    middleware.filterM Middleware.ask =
      ⟨.ok (participants middleware), askMiddleware middleware⟩ := by
  have asked :
      ∀ kept : List (Middleware σ),
        middleware.filterAuxM Middleware.ask kept =
          ⟨.ok ((participants middleware).reverse ++ kept),
            askMiddleware middleware⟩ := by
    induction middleware with
    | nil => exact fun kept => rfl
    | cons link rest inductionHypothesis =>
        intro kept
        rw [List.filterAuxM, Middleware.ask_eq, ok_bind,
          inductionHypothesis]
        cases enabled : link.enabled <;>
          simp [participants, enabled, askMiddleware]
  rw [List.filterM, asked, ok_bind]
  simp

/-- Wrapping one by one, the last of the list first, is wrapping all. -/
theorem foldlM_wrapping
    (links : List (Middleware σ))
    (root : Handler σ) :
    links.reverse.foldlM Middleware.wrapping root =
      ⟨.ok (wrapAll links root),
        links.reverse.map fun link => .call (.wrap link.name)⟩ := by
  have wrapped :
      ∀ (links : List (Middleware σ)) (next : Handler σ),
        links.foldlM Middleware.wrapping next =
          ⟨.ok (links.foldl (fun next link => link.wrap next) next),
            links.map fun link => .call (.wrap link.name)⟩ := by
    intro links
    induction links with
    | nil => exact fun next => rfl
    | cons link rest inductionHypothesis =>
        intro next
        rw [List.foldlM_cons, Middleware.wrapping_eq, ok_bind,
          inductionHypothesis]
        rfl
  rw [wrapped, List.foldl_reverse]
  rfl

/-- The links join the chain in order. -/
theorem forM_join (links : List (Middleware σ)) :
    links.forM Middleware.join =
      ⟨.ok (), links.map fun link => .call (.join link.name link.quiet)⟩ := by
  induction links with
  | nil => rfl
  | cons link rest inductionHypothesis =>
      have first :
          (link :: rest).forM Middleware.join =
            link.join >>= fun _ => rest.forM Middleware.join :=
        rfl
      rw [first, inductionHypothesis]
      rfl

/-- Assembly comes to the same when it is made call by call. -/
theorem assemble_eq_stepwise
    (providers : List (Provider σ))
    (middleware : List (Middleware σ)) :
    assemble providers middleware =
      assembleStepwise providers middleware := by
  unfold assemble assembleStepwise
  simp only [filterM_ask, foldlM_wrapping, forM_join, ok_bind]
  rfl

/-! ## The calls that are made -/

/-- Where no provider has a handler, all are asked. -/
theorem askProviders_of_none
    {providers : List (Provider σ)}
    (none : ∀ provider ∈ providers, provider.handler = none) :
    (askProviders providers).1 = .none ∧
      pluginCalls (askProviders providers).2 =
        providers.map Provider.asked := by
  induction providers with
  | nil => exact ⟨rfl, rfl⟩
  | cons provider rest inductionHypothesis =>
      have without : provider.handler = .none :=
        none provider List.mem_cons_self
      obtain ⟨unserved, asked⟩ :=
        inductionHypothesis fun other later =>
          none other (List.mem_cons_of_mem provider later)
      rw [askProviders, without]
      refine ⟨unserved, ?_⟩
      rw [List.map_cons, ← asked]
      rfl

/-- Nobody is asked after the first provider that has a handler. -/
theorem askProviders_of_some
    {earlier : List (Provider σ)}
    {provider : Provider σ}
    {root : Handler σ}
    (none : ∀ other ∈ earlier, other.handler = none)
    (serves : provider.handler = some root)
    (later : List (Provider σ)) :
    (askProviders (earlier ++ provider :: later)).1 = some root ∧
      pluginCalls (askProviders (earlier ++ provider :: later)).2 =
        (earlier ++ [provider]).map Provider.asked := by
  induction earlier with
  | nil =>
      rw [List.nil_append, askProviders, serves]
      exact ⟨rfl, rfl⟩
  | cons first rest inductionHypothesis =>
      have without : first.handler = .none :=
        none first List.mem_cons_self
      obtain ⟨served, asked⟩ :=
        inductionHypothesis fun other later =>
          none other (List.mem_cons_of_mem first later)
      rw [List.cons_append, askProviders, without]
      refine ⟨served, ?_⟩
      rw [List.cons_append, List.map_cons, ← asked]
      rfl

/-- Without a handler the providers are all asked and there is no route. -/
theorem assemble_of_none
    {providers : List (Provider σ)}
    (none : ∀ provider ∈ providers, provider.handler = none)
    (middleware : List (Middleware σ)) :
    (assemble providers middleware).outcome = .error .noRouteHandler ∧
      pluginCalls (assemble providers middleware).journal =
        providers.map Provider.asked := by
  obtain ⟨unserved, asked⟩ := askProviders_of_none none
  have failed :
      resolveRoot providers =
        ⟨.error .noRouteHandler,
          (askProviders providers).2 ++
            [chainEvent .error
              "Unable to start the server - no route handler provider available"
              [("providers", .number providers.length)]]⟩ := by
    simp only [resolveRoot, Recorded.notes_bind, unserved]
    rfl
  rw [assemble, Recorded.bind_of_error _ (congrArg _ failed), failed]
  refine ⟨rfl, ?_⟩
  rw [← asked, pluginCalls, List.filterMap_append]
  exact List.append_nil _

/-- The calls of two journals follow each other. -/
theorem pluginCalls_append
    (early late : List Entry) :
    pluginCalls (early ++ late) = pluginCalls early ++ pluginCalls late :=
  List.filterMap_append

/-- Every link is asked once, in order. -/
theorem pluginCalls_askMiddleware (middleware : List (Middleware σ)) :
    pluginCalls (askMiddleware middleware) =
      middleware.map fun link => .askMiddleware link.name := by
  induction middleware with
  | nil => rfl
  | cons link rest inductionHypothesis =>
      rw [List.map_cons, ← inductionHypothesis]
      rfl

/-- Entries that are calls are those calls. -/
theorem pluginCalls_map
    (links : List (Middleware σ))
    (call : Middleware σ → PluginCall) :
    pluginCalls (links.map fun link => .call (call link)) =
      links.map call := by
  rw [pluginCalls, List.filterMap_map]
  exact congrFun List.filterMap_eq_map' links

/-- With a handler the providers up to it are asked, and the chain is put together around it. -/
theorem assemble_of_some
    {earlier : List (Provider σ)}
    {provider : Provider σ}
    {root : Handler σ}
    (none : ∀ other ∈ earlier, other.handler = none)
    (serves : provider.handler = some root)
    (later : List (Provider σ))
    (middleware : List (Middleware σ)) :
    let links := participants middleware
    (assemble (earlier ++ provider :: later) middleware).outcome =
        .ok
          { head := wrapAll links root
            links := links.map fun link => link.name } ∧
      pluginCalls
          (assemble (earlier ++ provider :: later) middleware).journal =
        (earlier ++ [provider]).map Provider.asked ++
          middleware.map (fun link => .askMiddleware link.name) ++
          links.reverse.map (fun link => .wrap link.name) ++
          links.map (fun link => .join link.name link.quiet) := by
  have asking := askProviders_of_some none serves later
  generalize earlier ++ provider :: later = providers at asking
  obtain ⟨served, asked⟩ := asking
  have resolved :
      resolveRoot providers = ⟨.ok root, (askProviders providers).2⟩ := by
    simp only [resolveRoot, Recorded.notes_bind, served,
      Recorded.journal_pure, List.append_nil, Recorded.outcome_pure]
  have journal :
      (assemble providers middleware).journal =
        (askProviders providers).2 ++
          chainEvent .debug "Discovered middleware plugins"
            [("count", .number middleware.length)] ::
          (askMiddleware middleware ++
            ((participants middleware).reverse.map
                (fun link => .call (.wrap link.name)) ++
              (participants middleware).map
                (fun link => .call (.join link.name link.quiet)))) := by
    rw [assemble, resolved, ok_bind]
    simp only [Recorded.notes_bind, Recorded.journal_pure, List.append_nil]
    rfl
  refine ⟨by rw [assemble, resolved, ok_bind]; rfl, ?_⟩
  have calls :
      ∀ event rest,
        pluginCalls
            ((askProviders providers).2 ++ Entry.event event :: rest) =
          pluginCalls (askProviders providers).2 ++ pluginCalls rest :=
    fun _ _ => List.filterMap_append
  rw [journal, chainEvent, Entry.log, calls, pluginCalls_append,
    pluginCalls_append, asked, pluginCalls_askMiddleware,
    pluginCalls_map, pluginCalls_map]
  simp only [List.append_assoc]

/-- Some provider is the first that has a handler, if not all have none. -/
theorem exists_first_served
    {providers : List (Provider σ)}
    (some : ¬ ∀ provider ∈ providers, provider.handler = none) :
    ∃ earlier provider later root,
      providers = earlier ++ provider :: later ∧
        (∀ other ∈ earlier, other.handler = none) ∧
        provider.handler = .some root := by
  induction providers with
  | nil => exact absurd (fun _ member => absurd member List.not_mem_nil) some
  | cons first rest inductionHypothesis =>
      cases served : first.handler with
      | some root =>
          exact ⟨[], first, rest, root, rfl,
            fun _ member => absurd member List.not_mem_nil, served⟩
      | none =>
          obtain ⟨earlier, provider, later, root, rfl, without, serves⟩ :=
            inductionHypothesis fun none =>
              some (List.forall_mem_cons.mpr ⟨served, none⟩)
          exact ⟨first :: earlier, provider, later, root, rfl,
            List.forall_mem_cons.mpr ⟨served, without⟩, serves⟩

/-- Handlers are wrapped by the logics of the links, where these have one. -/
theorem wrapAll_eq_around
    {links : List (Middleware σ)}
    {logic : Middleware σ → Logic σ}
    (wraps : ∀ link ∈ links, link.wrap = (logic link).around)
    (root : Handler σ) :
    wrapAll links root = (links.map logic).foldr Logic.around root := by
  rw [wrapAll, List.foldr_map]
  exact List.foldr_ext _ _ root fun link member next =>
    congrFun (wraps link member) next

/--
A chain is assembled by these calls, and is its root handler inside the middleware
that is enabled; or there is no root handler, and no chain.
-/
theorem assembles
    (providers : List (Provider σ))
    (middleware : List (Middleware σ)) :
    Assembled providers middleware (assemble providers middleware) := by
  constructor
  case stepwise => exact assemble_eq_stepwise providers middleware
  case fails_iff =>
    intro failure
    constructor
    · intro failed
      by_cases none : ∀ provider ∈ providers, provider.handler = .none
      · rw [(assemble_of_none none middleware).1] at failed
        exact ⟨(Except.error.inj failed).symm, none⟩
      · obtain ⟨earlier, provider, later, root, rfl, without, serves⟩ :=
          exists_first_served none
        rw [(assemble_of_some without serves later middleware).1] at failed
        cases failed
    · rintro ⟨rfl, none⟩
      exact (assemble_of_none none middleware).1
  case unserved =>
    exact fun none => (assemble_of_none none middleware).2
  case served =>
    rintro earlier provider later root rfl without serves
    obtain ⟨formed, calls⟩ :=
      assemble_of_some without serves later middleware
    refine ⟨calls, _, formed, rfl, rfl, ?_⟩
    intro logic wraps request deeds response
    dsimp only
    rw [wrapAll_eq_around wraps, comesTo_foldr_around]

end PluggableHost.Plugin
