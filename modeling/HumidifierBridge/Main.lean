import HumidifierBridge.Appliance.Http
import HumidifierBridge.Program.Operation
import Std.Async.DNS
import Std.Async.Signal
import Std.Async.System
import Std.Async.TCP
import Std.Async.Timer

/-!
# The command

`main` reads the command line and the configuration file, and then runs the bridge until the program
is told to stop. All decisions are those of the modules it imports; here are the network, the clock,
the signals, the file and the output.
-/

namespace HumidifierBridge.Command

open Std.Async

/-- Prints the lines up to a level. -/
def log (limit : LogLevel) (lines : List LogLine) : IO Unit := do
  for line in lines.filter limit.logs do
    IO.println (line.level.name ++ " " ++ line.text)
  (← IO.getStdout).flush

/-- The files around a path, as far as they matter for the configuration. -/
def snapshot (path : String) : IO FileTree := do
  let around := FileTree.empty.makeDirectories [] (pathNames path).dropLast
  try
    let contents ← IO.FS.readBinFile path
    return (around.write path contents none).2
  catch
    | .noFileOrDirectory .. => return around
    | .inappropriateType .. => return around.makeDirectory path
    | e => throw e

/-- Brings the file at a path from what it was in one tree to what it is in another. -/
def store (path : String) (before after : FileTree) : IO Unit := do
  let written := match before.entry path, after.entry path with
    | .ok (.file old), .ok (.file new) => if old == new then none else some new
    | _, .ok (.file new) => some new
    | _, _ => none
  if let some contents := written then
    let newPath := ConfigStore.newPath ⟨path⟩
    try
      IO.FS.writeBinFile newPath contents
      IO.FS.rename newPath path
    catch e =>
      try IO.FS.removeFile newPath catch _ => pure ()
      throw e

/-- The name of this host. -/
def hostname : IO String := do
  try System.getHostName catch _ => return "localhost"

/-- What the program finds when it starts. -/
def surroundings : IO Surroundings := do
  let random : IO (List UInt8) := return (← IO.getRandomBytes 16).toList
  return {
    hostname := ← hostname
    now := (← Std.Time.Timestamp.now).toMillisecondsSinceUnixEpoch.val
    vdcEntropy := ← random
    libraryEntropy := ← random }

/-- The address of a socket. -/
def socketAddress (address : Std.Net.IPAddr) (port : UInt16) : Std.Net.SocketAddress :=
  match address with
  | .v4 addr => .v4 { addr, port }
  | .v6 addr => .v6 { addr, port }

/-- Receives octets until they hold an answer. -/
partial def receive (socket : TCP.Socket.Client) (octets : List UInt8) : Async Answer := do
  match Http.answer? octets false with
  | some answer => return answer
  | none =>
    match ← socket.recv? 65536 with
    | some more => receive socket (octets ++ more.toList)
    | none => return (Http.answer? octets true).getD .none

/-- Sends a request and receives the answer. -/
def exchange (r : Request) : Async Answer := do
  let some target := Http.Target.ofUrl? r.url | return .none
  let addresses ← DNS.getAddrInfo target.host (toString target.port)
  let some address := addresses[0]? | return .none
  let socket ← TCP.Socket.Client.mk
  socket.connect (socketAddress address target.port)
  socket.send (Http.post target r.body)
  receive socket []

/-- Waits for a number of milliseconds. -/
def pause (length : Nat) : IO (AsyncTask Unit) := (sleep (.ofNat length)).toIO

/-- Asks the appliance. When nothing comes back in time there is no answer. -/
def ask (r : Request) : IO Answer := do
  let patience : ApplianceAddress := { host := "" }
  let asked ← (exchange r).toIO
  let ended ← pause patience.timeout
  match ← IO.waitAny [asked, ended.map fun () => .none] with
  | .ok answer => return answer
  | .error _ => return .none

/-- Lets the operation go on until one of the tasks is done. -/
partial def serve (limit : LogLevel) (stop : AsyncTask Unit) (start : Nat) (o : Operation Answer) :
    IO Unit := do
  if ← IO.hasFinished stop then
    log limit [⟨.info, "Received shutdown signal"⟩]
  else
    let clock : IO Time := return (← IO.monoMsNow) - start
    let o ← if o.willPoll (← clock) then
        o.withAppliance <$> ask ⟨ApplianceAddress.url o.line.base dataPath, none⟩
      else pure o
    let (o, lines) := o.turn (← clock)
    log limit lines
    let waiting ← pause (o.nextTurn - (← clock)).toNat
    discard <| IO.waitAny [stop, waiting]
    serve limit stop start o

/-- A task that ends when the program is told to stop. -/
def stopped : IO (AsyncTask Unit) := do
  let interrupted ← (← Signal.Waiter.mk .sigint false).wait
  let terminated ← (← Signal.Waiter.mk .sigterm false).wait
  let stop ← IO.asTask (discard (IO.waitAny [interrupted, terminated])) .dedicated
  return stop

/-- Runs the program and gives the code to exit with. -/
def run (options : Options) : IO UInt32 := do
  let path := options.configPath
  let before ← snapshot path
  let around ← surroundings
  let startup := HumidifierBridge.start options before around
  store path before startup.files
  log startup.limit startup.log
  match startup.started with
  | none => return 1
  | some started =>
    let line : Line Answer := ⟨started.base, fun _ answer => (answer, answer)⟩
    let stop ← stopped
    let (operation, lines) :=
      (Operation.ofStarted started line startup.files .none around.now).begin
    log startup.limit lines
    serve startup.limit stop (← IO.monoMsNow) operation
    return 0

end HumidifierBridge.Command

open HumidifierBridge in
/-- Runs the program with the arguments of the command line. -/
def main (arguments : List String) : IO UInt32 := do
  match Invocation.ofArguments arguments with
  | .help => IO.print helpText; return 0
  | .version => IO.print versionText; return 0
  | .unusable complaint =>
    IO.eprintln ("error: " ++ complaint ++ "\n\nFor more information, try '--help'.")
    return 2
  | .run options =>
    try Command.run options
    catch e =>
      Command.log .error [⟨.error, toString e⟩]
      return 1
