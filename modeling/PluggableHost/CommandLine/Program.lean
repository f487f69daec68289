import PluggableHost.CommandLine.Arguments
import PluggableHost.Config.Document
import PluggableHost.Lifecycle.Pool
import PluggableHost.Observability.Filter
import PluggableHost.Observability.LogLine
import PluggableHost.Plugin.Stock

namespace PluggableHost.CommandLine

open PluggableHost.Config PluggableHost.Http PluggableHost.Lifecycle PluggableHost.Net
open PluggableHost.Observability PluggableHost.Os PluggableHost.Plugin

/-!
# The program

The program reads its settings, decides which log events it shows and how, and
runs a host whose only plugin answers the status routes. What it does depends on
its arguments and its surroundings alone: files, one variable of the
environment, and the network. A program that has started runs until it is told
to end.
-/

/-- What a program finds around it. -/
structure Surroundings where
  files : FileTree
  /-- The filter that the environment asks for. -/
  filter : Option String := none
  network : Network

/-- The file that arguments ask to read settings from, if they ask to run a host. -/
def settingsPath? (arguments : List String) : Option String :=
  match Wish.ofArguments arguments with
  | .ok (.serve path _) => some path
  | _ => none

/-- The paths at which the key material of settings may be. -/
def materialPaths (settings : Settings) : List String :=
  [settings.keystoreName, settings.truststoreName].flatMap fun name =>
    if name.startsWith "/" then [name]
    else settings.materialDirs.map fun directory => joinPath directory name

/-- What a program shows of its log. -/
structure Display where
  filter : Filter
  format : LogFormat
  deriving Repr, DecidableEq

/-- The events of a journal that are shown. -/
def Display.shown (display : Display) (journal : List Entry) : List Event :=
  (journal.filterMap Entry.event?).filter display.filter.passes

/-- How the program ends. -/
inductive Ending where
  /-- It printed what it was asked for. -/
  | printed (lines : List String)
  /-- Its arguments were not understood. -/
  | rejected (rejection : Rejection)
  /-- It could not begin, and said why. -/
  | refused (reason : String)
  /-- The host could not start. -/
  | failed
  | brokenDown
  /-- The host ran and was shut down. -/
  | finished
  deriving Repr, DecidableEq

namespace Ending

/-- The number that the process ends with. -/
def exitCode : Ending → Nat
  | printed _ => 0
  | rejected _ => 2
  | refused _ => 1
  | failed => 1
  | brokenDown => 101
  | finished => 0

/-- What is printed among the errors when the program ends. -/
def complaint : Ending → String
  | rejected rejection => rejection.text
  | refused reason => "service-host: " ++ reason ++ "\n"
  | _ => ""

/-- The lines that are printed instead of a log. -/
def lines : Ending → List String
  | printed lines => lines
  | _ => []

end Ending

/-- A host that is running, and what is shown of its log. -/
structure Program where
  blueprint : Blueprint Trail Unit
  pool : Pool Trail Unit
  display : Display

/-- What becomes of a program when it has been launched. -/
structure Launch where
  /-- The log so far. -/
  shown : List Event := []
  format : LogFormat := .compact
  outcome : Except Ending Program

/-- An event of the program itself. -/
def programEvent (level : Level) (message : String)
    (fields : List (String × FieldValue) := []) : Entry :=
  .log level .program message fields

/-- The sockets that metrics are served on. -/
def metricsSocket : SocketSettings := { backlog := 1024, receiveBuffer := 16384 }

/-- Serve metrics at an address, or report why that is not possible. -/
def serveMetrics (network : Network) (address : String) : Network × List Entry :=
  let asked := ("metrics_address", FieldValue.text address)
  match SocketAddress.parse? address with
  | none =>
      (network,
        [programEvent .error "Failed to parse metrics address"
          [asked, ("error", .text Failure.addressSyntax.message)]])
  | some wanted =>
      match network.listenOn metricsSocket wanted with
      | (.error cause, network) =>
          (network,
            [programEvent .error "Failed to start metrics endpoint"
              [asked, ("error", .text ("failed to create HTTP listener: " ++ cause.message))]])
      | (.ok _, network) =>
          (network,
            [.log .info .metrics "Metrics endpoint listening"
              [("address", .text wanted.text)]])

/-- The report that a program begins with. -/
def beginning (settings : Settings) : Entry :=
  programEvent .info "service-host starting"
    [("version", .text version), ("service_id", .text settings.serviceId),
      ("http", .flag settings.enableHttp), ("https", .flag settings.enableHttps),
      ("registry", .flag settings.enableRegistry)]

/-- The host that the program runs. -/
def blueprintOf (surroundings : Surroundings) (settings : Settings) : Blueprint Trail Unit :=
  let empty : Plugins Trail Unit := {}
  { settings
    plugins := empty.provide .answer statusProvider
    material := .files surroundings.files settings.materialDirs }

/-- Run a host until it has started. -/
def startHost (surroundings : Surroundings) (settings : Settings) (display : Display) : Launch :=
  let (network, metrics) :=
    (settings.metricsAddress.map (serveMetrics surroundings.network)).getD
      (surroundings.network, [])
  let blueprint := blueprintOf surroundings settings
  let host : Host Trail Unit := { registrar := { registry := () }, network }
  let (jobs, pool) := (Pool.ofHost host).call blueprint [.begin]
  let journal := metrics ++ beginning settings :: pool.journal
  let launch (more : List Entry) (outcome : Except Ending Program) : Launch :=
    { shown := display.shown (journal ++ more), format := display.format, outcome }
  match jobs with
  | [.done (.ok ())] => launch [] (.ok { blueprint, pool, display })
  | [.done (.error failure)] =>
      launch
        [programEvent .error "Unable to start server" [("error", .text failure.message)]]
        (.error .failed)
  | _ => launch [] (.error .brokenDown)

/-- Launch the program with its arguments, in what surrounds it. -/
def launch (surroundings : Surroundings) (arguments : List String) : Launch :=
  match Wish.ofArguments arguments with
  | .error rejection => { outcome := .error (.rejected rejection) }
  | .ok .showHelp => { outcome := .error (.printed helpLines) }
  | .ok .showVersion => { outcome := .error (.printed versionLines) }
  | .ok (.serve config logLevel) =>
      match Settings.load surroundings.files config with
      | .error failure => { outcome := .error (.refused failure.message) }
      | .ok settings =>
          match Filter.choose surroundings.filter (logLevel.getD settings.logLevel) with
          | .error fault =>
              { outcome :=
                  .error (.refused ("failed to initialize logging: " ++ fault.message)) }
          | .ok filter =>
              startHost surroundings settings { filter, format := .ofName settings.logFormat }

/-- The listeners that the program has open. -/
def Program.listeners (program : Program) : List Listener := program.pool.host.listeners

/-- The answer to a request, which is answered before the next one is looked at. -/
def Program.answer (program : Program) (request : Request) : Response :=
  match program.pool.host.service with
  | some handler => ((handler request).finish {}).1
  | none => { status := 404 }

/-- The answer to a request for the metrics. -/
def Program.metrics (program : Program) : Response :=
  textResponse (Metric.exposition (program.pool.journal.filterMap Entry.metric?))

/-- Tell a running program to end; the rest of its log. -/
def Program.finish (program : Program) : List Event :=
  let before := program.pool.journal.length
  let after := program.pool.signal program.blueprint
  let complete := programEvent .info "Shutdown complete"
  program.display.shown (after.journal.drop before ++ [complete])

end PluggableHost.CommandLine
