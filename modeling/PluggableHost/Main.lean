import PluggableHost.CommandLine.Program
import PluggableHost.Http.Wire
import PluggableHost.Net.Reservation
import Std.Async.Signal
import Std.Async.TCP
import Std.Time

namespace PluggableHost.CommandLine

open PluggableHost.Config PluggableHost.Http PluggableHost.Net PluggableHost.Observability
open PluggableHost.Os
open Std.Async

/-!
# The process

What the program decides is decided elsewhere. Here its surroundings are
gathered, its lines are printed, and connections are handed to it until the
process is told to end. Listeners in the clear are answered; a connection to a
TLS listener is closed without an answer.
-/

/-- A socket of this machine that waits for connections. -/
abbrev Waiting := TCP.Socket.Server

/-- The cause behind an error of the machine, whose number may be written below zero. -/
def failureOf (error : IO.Error) : Failure :=
  match error with
  | .alreadyExists _ code _ | .otherError code _ | .resourceBusy code _
  | .resourceVanished code _ | .unsupportedOperation code _ | .hardwareFault code _
  | .unsatisfiedConstraints code _ | .illegalOperation code _ | .protocolError code _
  | .timeExpired code _ | .interrupted _ code _ | .noFileOrDirectory _ code _
  | .invalidArgument _ code _ | .permissionDenied _ code _ | .resourceExhausted _ code _
  | .inappropriateType _ code _ | .noSuchThing _ code _ => .system code.toInt32.toInt.natAbs
  | .unexpectedEof | .userError _ => .system 5

/-- The address in the form that the runtime's network takes. -/
def machineAddress (address : SocketAddress) : Std.Net.SocketAddress :=
  match address.host with
  | .v4 host =>
      .v4 ⟨.ofParts host.first host.second host.third host.fourth, address.port⟩
  | .v6 host => .v6 ⟨⟨host.groups⟩, address.port⟩

/-- The port of an address in that form. -/
def machinePort : Std.Net.SocketAddress → UInt16
  | .v4 address => address.port
  | .v6 address => address.port

/-- Ask the machine for an address. -/
def reserve (settings : Settings) (wanted : SocketAddress) :
    IO (Reservation × Option Waiting) := do
  try
    let waiting ← TCP.Socket.Server.mk
    waiting.bind (machineAddress wanted)
    waiting.listen settings.backlog
    return ({ wanted, outcome := .ok (machinePort (← waiting.getSockName)) }, some waiting)
  catch error => return ({ wanted, outcome := .error (failureOf error) }, none)

/-- Add what stands at a path of the machine to a tree. -/
def gather (tree : FileTree) (path : String) : IO FileTree := do
  match ← (IO.FS.readBinFile path).toBaseIO with
  | .ok content => return tree.lay path (.file content.toList)
  | .error error =>
      if failureOf error = .system isADirectory then return tree.lay path .directory
      else return tree

/-- The time of day as log lines show it. -/
def timeText : IO String := do
  let now := Std.Time.DateTime.ofTimestampWithZone (← Std.Time.Timestamp.now) .UTC
  return now.format "uuuu-MM-dd'T'HH:mm:ss.SSSSSS'Z'"

/-- Print events as log lines with the present time. -/
def printEvents (format : LogFormat) (events : List Event) : IO Unit := do
  let time ← timeText
  for event in events do
    IO.println (event.line time format)
  (← IO.getStdout).flush

/-- Wait until a whole request has arrived, or nothing more will. -/
partial def receive (client : TCP.Socket.Client) (arrived : Bytes) : Async Arrival := do
  match Arrival.ofBytes arrived with
  | .incomplete =>
      match ← client.recv? 65536 with
      | some more => receive client (arrived ++ more.toList)
      | none => return .incomplete
  | arrival => return arrival

/-- Answer the request of a connection, if it brings one. -/
def answer (respond : Request → Response) (client : TCP.Socket.Client) : Async Unit := do
  let response? : Option Response :=
    match ← receive client [] with
    | .incomplete => none
    | .malformed => some malformedResponse
    | .complete request => some (respond request)
  if let some response := response? then
    client.send ⟨response.bytes.toArray⟩
    client.shutdown

/-- Take connections for as long as the process runs. -/
partial def takeConnections (waiting : Waiting) (attend : TCP.Socket.Client → Async Unit) :
    Async Unit := do
  let client ← waiting.accept
  background (attend client)
  takeConnections waiting attend

/-- Attend to the connections of every listener and to those that collect metrics. -/
def serve (program : Program) (reserved : List (Reservation × Option Waiting)) : Async Unit := do
  let collected := program.blueprint.settings.metricsAddress.bind SocketAddress.parse?
  for (reservation, waiting) in reserved do
    if let some waiting := waiting then
      let listener := program.listeners.find? fun listener =>
        reservation.outcome.toOption.any fun port =>
          listener.address = { reservation.wanted with port }
      match listener with
      | some { protocol := .plain, .. } =>
          background (takeConnections waiting (answer program.answer))
      | some { protocol := .tls, .. } =>
          background (takeConnections waiting fun client => client.shutdown)
      | none =>
          if collected = some reservation.wanted then
            background (takeConnections waiting (answer fun _ => program.metrics))

/-- Wait until the process is told to end. -/
def awaitEnd : IO Unit := do
  let interrupt ← Signal.Waiter.mk .sigint false
  let terminate ← Signal.Waiter.mk .sigterm false
  discard <| IO.waitAny [← interrupt.wait, ← terminate.wait]

/-- Run the program with arguments; the number that the process ends with. -/
def run (arguments : List String) : IO UInt32 := do
  let workingDirectory := (toString (← IO.currentDir)).splitOn "/" |>.filter (· ≠ "")
  let config ← (settingsPath? arguments).toList.foldlM gather { workingDirectory }
  let settings? := (settingsPath? arguments).bind fun path =>
    (Settings.load config path).toOption
  let files ← (settings?.toList.flatMap materialPaths).foldlM gather config
  let reserved ← settings?.toList.flatMap wantedAddresses |>.mapM (reserve (settings?.getD {}))
  let launched := launch
    { files
      filter := ← IO.getEnv "RUST_LOG"
      network := { rules := .reserved (reserved.map Prod.fst) } }
    arguments
  printEvents launched.format launched.shown
  match launched.outcome with
  | .error ending =>
      for line in ending.lines do
        IO.println line
      IO.eprint ending.complaint
      return ending.exitCode.toUInt32
  | .ok program =>
      (serve program reserved).block
      awaitEnd
      printEvents launched.format program.finish
      return Ending.finished.exitCode.toUInt32

end PluggableHost.CommandLine

/-- The program with the arguments of the command line. -/
def main (arguments : List String) : IO UInt32 := PluggableHost.CommandLine.run arguments
