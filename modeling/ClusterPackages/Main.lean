import Std.Async.DNS
import Std.Async.TCP
import ClusterPackages.CommandLine.Run
import ClusterPackages.Http.Replay
import ClusterPackages.Http.Wire

namespace ClusterPackages.CommandLine

open Http Text Std.Async

/-!
# The program

Everything is decided by the other modules.  Here files are read, requests go over connections,
and outcomes are written.
-/

/-! ### Connections -/

/-- A byte array for a list of bytes. -/
def packed (bytes : Bytes) : ByteArray := ⟨bytes.toArray⟩

/-- Sends bytes over a new connection, and receives until the connection ends. -/
def exchange (address : Std.Net.IPAddr) (port : Nat) (bytes : Bytes) : Async Bytes := do
  let socket ← TCP.Socket.Client.mk
  let target : Std.Net.SocketAddress :=
    match address with
    | .v4 a => .v4 ⟨a, UInt16.ofNat port⟩
    | .v6 a => .v6 ⟨a, UInt16.ofNat port⟩
  socket.connect target
  socket.send (packed bytes)
  let mut received := ByteArray.empty
  repeat
    match ← socket.recv? 65536 with
    | some piece => received := received ++ piece
    | none => break
  return received.toList

/-- What is received from the first address that can be reached. -/
def exchangeAny (port : Nat) (bytes : Bytes) : List Std.Net.IPAddr → Async (Option Bytes)
  | [] => return none
  | address :: rest => do
    try
      return some (← exchange address port bytes)
    catch _ =>
      exchangeAny port bytes rest

/-- Has a request answered by its server. -/
def answer (r : Http.Request) : IO (Option Reply) := do
  match r.server? with
  | none => return none
  | some (name, port) =>
    try
      let received ← Async.block do
        let addresses ← DNS.getAddrInfo name ""
        exchangeAny port r.toBytes addresses.toList
      return received.bind Reply.ofBytes?
    catch _ =>
      return none

/-- Runs a computation whose requests are answered by their servers. -/
partial def converse {α : Type} (x : Replay → α × Replay)
    (answers : List (Option Reply)) : IO α := do
  match Replay.step x answers with
  | .inl r =>
    let reply ← answer r
    converse x (answers ++ [reply])
  | .inr a => return a

/-! ### Surroundings -/

/-- The variables that a command line may ask for. -/
def readVariables : IO (String → Option String) := do
  let names := ["XDG_CONFIG_HOME", "HOME"] ++ globalFlags.filterMap (·.fallback)
  let values ← names.mapM fun name => return (name, ← IO.getEnv name)
  return fun name => (values.lookup name).join

/-- The bytes of a file, if it can be read. -/
def readFile (path : String) : IO (Option Bytes) := do
  try
    return some (← IO.FS.readBinFile path).toList
  catch _ =>
    return none

/-- The files with some paths. -/
def readFiles (paths : List String) : IO Files := do
  let contents ← paths.mapM fun path => return (path, ← readFile path)
  return fun path => (contents.lookup path).join

/-- The files that an invocation reads: one of settings, and one that the settings name. -/
def filesFor (i : Invocation) (standardPath : Option String) : IO Files := do
  let first ← readFiles (i.paths (fun _ => none) standardPath)
  readFiles (i.paths first standardPath)

/-! ### Outcomes -/

/-- Writes an outcome. -/
def write (o : Outcome) : IO UInt32 := do
  IO.print o.output
  IO.eprint o.message
  return UInt32.ofNat o.code

/-- Polls a queue again and again. -/
partial def pollForever (m : Manager Replay) (seconds : Nat) : IO Unit := do
  let start ← IO.monoMsNow
  let _ ← converse m.poll []
  let spent := (← IO.monoMsNow) - start
  IO.sleep (UInt32.ofNat (min (1000 * seconds - spent) 4294967295))
  pollForever m seconds

/-- Opens the package manager and polls its queue, unless it cannot be opened. -/
def watch (around : Surroundings Replay) (i : Invocation) : IO UInt32 := do
  match ← converse ((i.openWatch around).run) [] with
  | .error e => write (.ofResult (.error e))
  | .ok (m, seconds) => do
    pollForever m seconds
    return 0

/-- Does what a command line asks for. -/
def start (args : List String) : IO UInt32 := do
  let environment ← readVariables
  match Invocation.read environment args with
  | .error stop => write (.ofStop environment stop)
  | .ok i =>
    let standardPath := standardPath? environment
    let files ← filesFor i standardPath
    let around : Surroundings Replay :=
      ⟨files, standardPath, environment, Replay.transport, Ensemble.unreachable⟩
    if i.command = .watch then watch around i
    else write (← converse (run around args) [])

end ClusterPackages.CommandLine

/-- The program. -/
def main (args : List String) : IO UInt32 := ClusterPackages.CommandLine.start args
