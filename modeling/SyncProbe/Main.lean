import SyncProbe.Program

/-!
# The program's entry

`main` hands the arguments and the environment to `Invocation.run`, and prints what comes of it.

It has no sockets. What the network does is recorded on standard input, if the environment variable
`CRDT_PROBE_REPLAY` is set; without a recording, no endpoint can be reached. Each line of a
recording is a happening: a word, and what belongs to it behind a blank. The line `agree` stands for
a response that agrees to the connection, and `close` for a close frame with a code and a reason.
`text`, `binary`, `ping` and `pong` are other frames of the server, and `bytes` are any that it
sends, in hexadecimal. The server ends the stream with `end`, the user stops the run with
`interrupt`, and `pass` lets milliseconds pass. The network fails with `fail` and the words of the
system; a lone `block` says that it carries no connection. Names of hosts are known in ASCII only.
-/

namespace SyncProbe

namespace Recording

/-- The word at the front of a line, and what stands behind the blank after it. -/
def splitWord (line : List Char) : String × List Char :=
  (String.ofList (line.takeWhile (· ≠ ' ')), (line.dropWhile (· ≠ ' ')).drop 1)

def bytes? : List Char → Option Bytes
  | [] => some []
  | [_] => none
  | high :: low :: rest => do
    let byte := (← Hex.value? high) * 16 + (← Hex.value? low)
    return UInt8.ofNat byte :: (← bytes? rest)

def failure? (cs : List Char) : Option WebSocket.NetworkFailure :=
  let words := String.ofList cs
  if visible : words.toList.all (0x20 ≤ ·.toNat) = true then some ⟨words, visible⟩ else none

/-- The code and the reason of a close frame, which may be empty. -/
def closeReason? (cs : List Char) : Option (Option WebSocket.CloseReason) :=
  if cs.isEmpty then some none
  else do
    let (code, reason) := splitWord cs
    return some ⟨← Host.digits? 10 code.toList, String.ofList reason⟩

/-- A frame that the server sends. -/
def arrived (opcode : WebSocket.Opcode) (payload : Bytes) : Happening :=
  .arrived (WebSocket.Frame.encode opcode payload)

def happening? (line : List Char) : Option Happening :=
  let (word, rest) := splitWord line
  match word with
  | "agree" => some (.arrived (Utf8.encode WebSocket.Upgrade.agreement))
  | "bytes" => Happening.arrived <$> bytes? rest
  | "text" => some (arrived (.data .text) (Utf8.encode (String.ofList rest)))
  | "binary" => arrived (.data .binary) <$> bytes? rest
  | "ping" => arrived .ping <$> bytes? rest
  | "pong" => arrived .pong <$> bytes? rest
  | "close" => (arrived .close ∘ WebSocket.CloseReason.encode) <$> closeReason? rest
  | "end" => some .hungUp
  | "fail" => Happening.broke <$> failure? rest
  | "interrupt" => some .interrupted
  | "pass" => Happening.passed <$> Host.digits? 10 rest
  | _ => none

/-- The route that a recording is of. -/
def route? (recording : String) : Option Route :=
  match (splitOn (· = '\n') recording.toList).filter (! ·.isEmpty) with
  | [line] =>
    let (word, rest) := splitWord line
    if word = "block" then Route.blocked <$> failure? rest
    else (Route.carried [·]) <$> happening? line
  | lines => Route.carried <$> lines.mapM happening?

end Recording

/-! ## Entry -/

def environmentVariable (name : String) : IO (Option Bytes) := do
  return (← IO.getEnv name).map Utf8.encode

/-- The most bytes that a recording may have. -/
def maxRecording : USize := 0x4000000

/-- What the network does with a connection. -/
def recordedRoute : IO Route := do
  if (← IO.getEnv "CRDT_PROBE_REPLAY").isNone then return .blocked .unreachable
  else
    let recording ← (← IO.getStdin).read maxRecording
    match Recording.route? (Utf8.lossy recording.data.toList) with
    | some route => return route
    | none => throw (.userError "standard input is no recording")

end SyncProbe

open SyncProbe

def main (arguments : List String) : IO UInt32 := do
  let url ← environmentVariable "CRDT_PROBE_URL"
  let idleTimeout ← environmentVariable "CRDT_PROBE_IDLE_TIMEOUT_MS"
  let logFilter ← environmentVariable "RUST_LOG"
  let invocation : Invocation :=
    { arguments := arguments.map Utf8.encode, environment := { url, idleTimeout }, logFilter }
  let execution := @Invocation.run Naming.ascii invocation (← recordedRoute)
  IO.print (execution.output invocation.environment)
  IO.eprint (execution.complaint invocation.environment)
  return UInt32.ofNat (execution.exitCode.getD 1)
