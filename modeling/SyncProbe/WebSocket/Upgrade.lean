import SyncProbe.WebSocket.Frame

/-!
# Agreeing on a connection

A client asks for a connection in an HTTP request, and the server agrees in the head of its
response. `Upgrade.read` takes the head from the front of what has arrived. The server agrees if the
status is 101, the headers name the upgrade, and one of them answers the key that the client sent.
What follows the head already belongs to the connection.
-/

namespace SyncProbe.WebSocket.Upgrade

/-! ## The agreement -/

/-- The answer to the key that the client sends. -/
def accept : String := "s3pPLMBiTxaQ9kYGzzhZRbK+xOo="

/-- The head of a response that agrees. -/
def agreement : String :=
  "HTTP/1.1 101 Switching Protocols\r\nConnection: Upgrade\r\nUpgrade: websocket\r\n"
    ++ "Sec-WebSocket-Accept: " ++ accept ++ "\r\n\r\n"

/-! ## Reading a head -/

/-- A header: its name in lower case, and its value. -/
structure Header where
  name : List Char
  value : List Char
deriving DecidableEq, Repr

/-- The head of a response. -/
structure Head where
  minorVersion : Nat
  status : Nat
  headers : List Header
deriving DecidableEq, Repr

/-- Why a head could not be read to its end. -/
inductive Stop where
  | unfinished
  | refused (error : HeadError)
  | tooManyHeaders
deriving DecidableEq, Repr

/-- Bytes as characters, one for each byte. -/
def latin (bytes : Bytes) : List Char :=
  bytes.map fun byte => Char.ofNat byte.toNat

/-- Reads the end of a line, with or without a carriage return. -/
def readLineEnd (error : HeadError) : List Char → Except Stop (List Char)
  | [] => .error .unfinished
  | ['\r'] => .error .unfinished
  | '\n' :: rest => .ok rest
  | '\r' :: '\n' :: rest => .ok rest
  | _ => .error (.refused error)

/-- Drops the empty lines before a head, in at most `steps` lines. -/
def skipLines : Nat → List Char → Except Stop (List Char)
  | 0, cs => .ok cs
  | steps + 1, cs =>
    match cs with
    | [] => .error .unfinished
    | c :: _ =>
      if c = '\r' ∨ c = '\n' then do skipLines steps (← readLineEnd .newLine cs) else .ok cs

def readWord (error : HeadError) : List Char → List Char → Except Stop (List Char)
  | [], cs => .ok cs
  | _ :: _, [] => .error .unfinished
  | expected :: word, c :: cs =>
    if c = expected then readWord error word cs else .error (.refused error)

def readVersion (cs : List Char) : Except Stop (Nat × List Char) := do
  let cs ← readWord .version ['H', 'T', 'T', 'P', '/', '1', '.'] cs
  let (minor, cs) ← match cs with
    | [] => .error .unfinished
    | '0' :: cs => pure (0, cs)
    | '1' :: cs => pure (1, cs)
    | _ => .error (.refused .version)
  return (minor, ← readWord .version [' '] cs)

def readStatus : Nat → Nat → List Char → Except Stop (Nat × List Char)
  | 0, status, cs => .ok (status, cs)
  | _ + 1, _, [] => .error .unfinished
  | count + 1, status, c :: cs =>
    if c.isDigit then readStatus count (status * 10 + (c.toNat - '0'.toNat)) cs
    else .error (.refused .status)

/-- Whether a character may stand in the reason after a status, or in a header's value. -/
def isText (c : Char) : Bool :=
  c = '\t' || (0x20 ≤ c.toNat && c.toNat ≠ 0x7F)

/-- Reads the reason after a status, which may be missing. -/
def readReason (cs : List Char) : Except Stop (List Char) :=
  match cs with
  | ' ' :: cs => readLineEnd .status (cs.dropWhile isText)
  | cs => readLineEnd .status cs

/-- Whether a character may stand in a header's name. -/
def isNameChar (c : Char) : Bool :=
  c.isAlphanum ||
    ['!', '#', '$', '%', '&', '\'', '*', '+', '-', '.', '^', '_', '\x60', '|', '~'].contains c

def isBlank (c : Char) : Bool :=
  c = ' ' || c = '\t'

def dropBlankEnd (cs : List Char) : List Char :=
  (cs.reverse.dropWhile isBlank).reverse

/-- Reads a header to the end of its line. -/
def readHeader (cs : List Char) : Except Stop (Header × List Char) := do
  let name := cs.takeWhile isNameChar
  match cs.dropWhile isNameChar with
  | [] => .error .unfinished
  | c :: rest =>
    if c ≠ ':' ∨ name.isEmpty then .error (.refused .headerName)
    else do
      let rest := rest.dropWhile isBlank
      let value := dropBlankEnd (rest.takeWhile isText)
      return (⟨name.map Char.toLower, value⟩, ← readLineEnd .headerValue (rest.dropWhile isText))

/-- The most headers that a head may have. -/
def maxHeaders : Nat := 124

/-- Reads headers up to the empty line, at most `room` of them. -/
def readHeaders : Nat → List Char → Except Stop (List Header × List Char)
  | room, cs =>
    match cs with
    | [] => .error .unfinished
    | c :: _ =>
      if c = '\r' ∨ c = '\n' then do return ([], ← readLineEnd .newLine cs)
      else
        match room with
        | 0 => .error .tooManyHeaders
        | room + 1 => do
          let (header, cs) ← readHeader cs
          let (headers, cs) ← readHeaders room cs
          return (header :: headers, cs)

/-- Reads a head, and gives what follows it. -/
def readHead (cs : List Char) : Except Stop (Head × List Char) := do
  let cs ← skipLines (cs.length + 1) cs
  let (minorVersion, cs) ← readVersion cs
  let (status, cs) ← readStatus 3 0 cs
  let cs ← readReason cs
  let (headers, cs) ← readHeaders maxHeaders cs
  return (⟨minorVersion, status, headers⟩, cs)

/-! ## Judging a head -/

def Head.value? (head : Head) (name : String) : Option (List Char) :=
  (head.headers.find? (·.name = name.toList)).map (·.value)

/-- Whether a header has a value, in any case of letters. -/
def Head.says (head : Head) (name value : String) : Bool :=
  match head.value? name with
  | some cs => cs.map Char.toLower = value.toList
  | none => false

/-- Why a head does not agree to the connection. -/
def Head.objection? (head : Head) : Option Error :=
  if head.minorVersion = 0 then some (.violation .oldHttpVersion)
  else if head.status < 100 then some .invalidStatus
  else if head.status ≠ 101 then some (.status head.status)
  else if ! head.says "upgrade" "websocket" then some (.violation .missingUpgrade)
  else if ! head.says "connection" "upgrade" then some (.violation .missingConnection)
  else if head.value? "sec-websocket-accept" ≠ some accept.toList then
    some (.violation .wrongAccept)
  else if (head.value? "sec-websocket-protocol").isSome then
    some (.violation .unaskedSubprotocol)
  else none

/-- The most bytes that may arrive before a head ends. -/
def maxHead : Nat := 65536

/-- Reads the server's answer from the front of what has arrived. -/
def read (bytes : Bytes) : Arrival Unit :=
  match readHead (latin bytes) with
  | .error .unfinished => if maxHead < bytes.length then .refused .attack else .unfinished
  | .error (.refused error) => .refused (.violation (.head error))
  | .error .tooManyHeaders => .refused (.excess .tooManyHeaders)
  | .ok (head, rest) =>
    match head.objection? with
    | some error => .refused error
    | none => .complete () (bytes.drop (bytes.length - rest.length))

end SyncProbe.WebSocket.Upgrade
