import PluggableHost.Error
import PluggableHost.Http.Message
import PluggableHost.Observability.Journal
import PluggableHost.Plugin.Activity
import PluggableHost.Text.Quoted

namespace PluggableHost.Plugin

open PluggableHost.Http PluggableHost.Observability

/-!
# The processing chain

One root handler, from the first provider that has one, inside the enabled
middleware. The middleware found first is the outermost. Assembly asks every
middleware once whether it is enabled, wraps from the innermost outwards, and
then lets every enabled one join in the order in which they were found.
-/

/-- What answers requests. -/
abbrev Handler (σ : Type) := Request → Activity σ Response

/-- A plugin that may have a root handler. -/
structure Provider (σ : Type) where
  name : String
  quiet : Bool := false
  handler : Option (Handler σ)

/-- A plugin that wraps handlers. -/
structure Middleware (σ : Type) where
  name : String
  enabled : Bool := true
  quiet : Bool := false
  wrap : Handler σ → Handler σ

/-- A chain of handlers around the one that answers last. -/
structure Chain (σ : Type) where
  head : Handler σ
  /-- The names of the middleware, outermost first. -/
  links : List String

/-- The chain as a description shows it. -/
def Chain.text {σ : Type} (chain : Chain σ) : String :=
  "ProcessingChain \x7b links: " ++ Text.quotedList chain.links ++ " \x7d"

variable {σ : Type}

/-- An event of the assembly of a chain. -/
def chainEvent (level : Level) (message : String)
    (fields : List (String × FieldValue) := []) : Entry :=
  .log level .chain message fields

/-- Ask providers in order, up to the first that has a handler. -/
def askProviders : List (Provider σ) → Option (Handler σ) × List Entry
  | [] => (none, [])
  | provider :: rest =>
      let asked := Entry.call (.askProvider provider.name provider.quiet)
      match provider.handler with
      | some handler =>
          (some handler,
            [asked, chainEvent .info "Root handler resolved" [("provider", .text provider.name)]])
      | none =>
          let (handler, journal) := askProviders rest
          (handler,
            asked :: chainEvent .debug "Handler provider yielded no handler"
              [("provider", .text provider.name)] :: journal)

/-- The root handler of a chain. -/
def resolveRoot (providers : List (Provider σ)) : Recorded HostError (Handler σ) := do
  let (root, journal) := askProviders providers
  .notes journal
  match root with
  | some handler => return handler
  | none =>
      .note (chainEvent .error
        "Unable to start the server - no route handler provider available"
        [("providers", .number providers.length)])
      .fail .noRouteHandler

/-- The journal of asking every middleware whether it is enabled. -/
def askMiddleware (middleware : List (Middleware σ)) : List Entry :=
  middleware.flatMap fun link =>
    [.call (.askMiddleware link.name),
      chainEvent .info "Plugin"
        [("plugin", .text link.name), ("enabled", .flag link.enabled)]]

/-- A handler inside middleware, the first of the list outermost. -/
def wrapAll (middleware : List (Middleware σ)) (root : Handler σ) : Handler σ :=
  middleware.foldr (fun link next => link.wrap next) root

/-- Assemble a chain of the first handler that a provider has and all middleware that is enabled. -/
def assemble (providers : List (Provider σ)) (middleware : List (Middleware σ)) :
    Recorded HostError (Chain σ) := do
  let root ← resolveRoot providers
  .note (chainEvent .debug "Discovered middleware plugins" [("count", .number middleware.length)])
  .notes (askMiddleware middleware)
  let links := middleware.filter fun link => link.enabled
  .notes (links.reverse.map fun link => .call (.wrap link.name))
  .notes (links.map fun link => .call (.join link.name link.quiet))
  return { head := wrapAll links root, links := links.map fun link => link.name }

end PluggableHost.Plugin
