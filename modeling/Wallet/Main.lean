import Wallet.Command.Program
import Wallet.Node.Wire
import Std.Async.TCP
import Std.Async.DNS
import Std.Time.DateTime.Timestamp

/-!
# The executable

The outer layer: arguments, environment, files, the clock, random numbers, the two output streams
and plain network connections. Everything that decides anything is in `Wallet.Command.program`.
-/

namespace Wallet.Main

open Std.Async Std.Net

/-- The largest number of bytes that are received at once. -/
def chunk : UInt64 := 65536

/-- Receive until the other side closes the connection. -/
partial def receive (socket : TCP.Socket.Client) (done : ByteArray) : Async ByteArray := do
  match ← socket.recv? chunk with
  | some bytes => receive socket (done ++ bytes)
  | none => return done

/-- A socket address. -/
def socketAddress (service : UInt16) : IPAddr → SocketAddress
  | .v4 address => .v4 ⟨address, service⟩
  | .v6 address => .v6 ⟨address, service⟩

/-- Send a request and receive the answer. -/
def exchange (endpoint : Http.Endpoint) (address : IPAddr) (request : Request) :
    IO ByteArray := do
  let socket ← TCP.Socket.Client.mk
  Async.block do
    socket.connect (socketAddress endpoint.service address)
    socket.send (Http.requestText endpoint request).toUTF8
    receive socket .empty

/-- Send a request over a plain connection. -/
def send (request : Request) : IO Http.Message := do
  match Http.Endpoint.ofUrl? request.target with
  | none => return .failed s!"cannot connect to {request.target}"
  | some endpoint =>
    try
      let addresses ← Async.block (DNS.getAddrInfo endpoint.host (toString endpoint.service))
      match addresses[0]? with
      | some address => return Http.messageOf (← exchange endpoint address request).toList
      | none => return .failed s!"no address for {endpoint.host}"
    catch e => return .failed (toString e)

/-- Carry out a computation that talks to a node. -/
def perform {α : Type} (log : Log.Event → IO Unit) : Exchange α → IO α
  | .done value => return value
  | .ask request next => do perform log (next (Http.decode (← send request)))
  | .pause millis next => do
    IO.sleep (UInt32.ofNat millis)
    perform log next
  | .note event next => do
    log event
    perform log next

/-- The bytes of a file, or why it cannot be read. -/
def readFile (path : String) : IO (Except String Bytes) := do
  try return .ok (← IO.FS.readBinFile path).toList
  catch
    | .noFileOrDirectory .. => return .error "No such file or directory (os error 2)"
    | e => return .error (toString e)

/-- The name of a file that a command line mentions, if it is about one. -/
def fileOf : Command.Intent → Option String
  | .run _ (.anchor (.file path) _ _) => some path
  | .run _ (.compile path) => some path
  | _ => none

/-- The variables that matter. -/
def variableNames : List String :=
  ["LTO_NODE_URL", "LTO_CHAIN_ID", "LTO_LOG_FORMAT", "LTO_SEED", "LTO_SPONSOR_SEED",
    Log.Filter.variableName]

/-- The variables of the environment. -/
def environment : IO Command.Environment := do
  let values ← variableNames.mapM fun name => do return (name, ← IO.getEnv name)
  return fun name => (values.lookup name).join

/-- Five random numbers. -/
def randomDraws : IO (Vector UInt32 5) := do
  let bytes ← IO.getRandomBytes 20
  return Vector.ofFn fun i =>
    UInt32.ofNat (Bytes.toNat ((bytes.toList.drop (4 * i.val)).take 4))

/-- Milliseconds since 1970. -/
def currentMillis : IO UInt64 := do
  let now ← Std.Time.Timestamp.now
  return UInt64.ofNat now.toMillisecondsSinceUnixEpoch.toInt.toNat

/-- Run a command line. -/
def run (words : List String) : IO UInt32 := do
  let env ← environment
  let content ←
    match fileOf (Command.readIntent env words) with
    | some path => readFile path
    | none => pure (.error "")
  let surroundings : Command.Surroundings :=
    ⟨fun _ => content, ← currentMillis, ← randomDraws⟩
  let program := Command.program surroundings env words
  let log (event : Log.Event) : IO Unit :=
    if program.filter.shows event then IO.eprintln (event.line program.format) else pure ()
  let ending ← perform log program.exchange
  IO.print ending.output
  IO.eprint ending.errors
  return ending.code.toUInt32

end Wallet.Main

def main (words : List String) : IO UInt32 :=
  Wallet.Main.run words
