import Std.Async.DNS
import Std.Async.TCP
import Std.Time
import ProxyChain.Command.Perform
import ProxyChain.Net.Wire

/-!
# ProxyChain.Main

**The program at a terminal**: carries out what the command line asks for, with the files and the
network of the machine.
-/

namespace ProxyChain.Main

/-- What the clock of the machine shows. -/
def readClock : IO Log.Clock := do
  let now ← Std.Time.DateTime.now
  return ⟨now.format "HH:mm:ss", now.format "uuuu-MM-dd'T'HH:mm:ss.SSSSSSSSSxxx"⟩

/-! ### Posting -/

/-- All that comes back on a connection until the peer closes it. -/
partial def receive (socket : Std.Async.TCP.Socket.Client) (bytes : ByteArray) :
    Std.Async.Async ByteArray := do
  match ← socket.recv? 65536 with
  | some more => receive socket (bytes ++ more)
  | none => return bytes

/-- The address of an endpoint. -/
def resolve (endpoint : Net.Endpoint) : Std.Async.Async Std.Net.SocketAddress := do
  let found ← Std.Async.DNS.getAddrInfo endpoint.host (toString endpoint.port.toNat)
  match (found[0]? : Option Std.Net.IPAddr) with
  | some (.v4 address) => return .v4 ⟨address, endpoint.port⟩
  | some (.v6 address) => return .v6 ⟨address, endpoint.port⟩
  | none => throw (IO.userError "no address")

/-- Writes a request to a new connection and reads the reply. -/
def exchange (endpoint : Net.Endpoint) (request : Net.Request) : Std.Async.Async Net.Reply := do
  let socket ← Std.Async.TCP.Socket.Client.mk
  socket.connect (← resolve endpoint)
  socket.sendAll #[request.wire.toUTF8]
  let bytes ← receive socket .empty
  return (String.fromUTF8? bytes).elim (.unreadable "invalid UTF-8") Net.Reply.ofWire

/-- Waits for the result of a task, up to some moment. -/
partial def waitUntil (deadline : Nat) (task : Task (Except IO.Error Net.Reply)) :
    IO Net.Reply := do
  if ← IO.hasFinished task then
    match task.get with
    | .ok reply => return reply
    | .error error => return .unreachable (toString error)
  else if deadline ≤ (← IO.monoMsNow) then
    return .timedOut "operation timed out"
  else
    IO.sleep 5
    waitUntil deadline task

/-- Posts a request. -/
def post (request : Net.Request) : IO Net.Reply := do
  match request.url.endpoint? with
  | none => return .unreachable "URL scheme is not allowed"
  | some endpoint =>
    let task ← IO.asTask (exchange endpoint request).block
    waitUntil ((← IO.monoMsNow) + 1000 * request.patience.toNat) task

/-! ### Carrying out programs -/

/-- Whether a path leads to a file or a directory. -/
def fileExists (path : String) : IO Bool := do
  match ← (IO.FS.realPath path).toBaseIO with
  | .ok _ => return true
  | .error _ => return false

/-- Carries out a program. -/
def execute (style : Log.Style) : Program α → IO α
  | .done result => return result
  | .record r rest => do
    if r.isShown style then IO.eprintln (r.line style (← readClock))
    execute style rest
  | .print line rest => do
    IO.println line
    execute style rest
  | .find path rest => do execute style (rest (← fileExists path))
  | .readFile path rest => do
    let file ← (IO.FS.readFile path).toBaseIO
    execute style (rest (file.mapError toString))
  | .writeFile path text rest => do
    let written ← (IO.FS.writeFile path text).toBaseIO
    execute style (rest (written.mapError toString))
  | .post request rest => do execute style (rest (← post request))
  | .draw rest => do
    let number ← IO.rand 0 999999
    execute style (rest (number.toFloat / 1000000.0))
  | .pause millis rest => do
    IO.sleep millis.toUInt32
    execute style rest

/-- Looks at a profile again and again. -/
partial def watch (style : Log.Style) (w : Command.Watch) : IO Unit := do
  IO.sleep w.pauseMillis.toUInt32
  let (w, looked) ← execute style w.look
  match looked with
  | .ok () => watch style w
  | .error failure =>
    IO.eprintln failure.line
    watch style w

end ProxyChain.Main

/-- Carries out a command line. -/
def main (args : List String) : IO UInt32 := do
  let (style, program) := ProxyChain.Command.perform args
  let outcome ← ProxyChain.Main.execute style program
  match outcome with
  | .failed failure => IO.eprintln failure.line
  | .watching w => ProxyChain.Main.watch style w
  | .misused => IO.eprintln ProxyChain.Command.usageLine
  | .finished => pure ()
  return outcome.exitCode
