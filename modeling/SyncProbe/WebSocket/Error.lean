/-!
# What can go wrong with a connection

A connection fails because the network does not carry it, or no further, because the server does
not agree to speak WebSocket, or because it breaks the rules of the protocol. Each cause is a value
here, and `WebSocket.Error.message` words it.
-/

namespace SyncProbe.WebSocket

/-- Why the network does not carry a connection, or carries it no further. The words are those of
the operating system, which has many. They take one line. -/
structure NetworkFailure where
  message : String
  visible : message.toList.all (0x20 ≤ ·.toNat) = true
deriving DecidableEq, Repr

def NetworkFailure.unreachable : NetworkFailure :=
  ⟨"Network is unreachable (os error 101)", rfl⟩

def NetworkFailure.refused : NetworkFailure :=
  ⟨"Connection refused (os error 111)", rfl⟩

/-- Why the head of an HTTP response cannot be read. -/
inductive HeadError where
  | headerName
  | headerValue
  | newLine
  | status
  | version
deriving DecidableEq, Repr

def HeadError.message : HeadError → String
  | .headerName => "invalid header name"
  | .headerValue => "invalid header value"
  | .newLine => "invalid new line"
  | .status => "invalid response status"
  | .version => "invalid HTTP version"

/-- A kind of data frame, as it is named in errors. -/
inductive DataKind where
  | text
  | binary
deriving DecidableEq, Repr

def DataKind.name : DataKind → String
  | .text => "TEXT"
  | .binary => "BINARY"

/-- A rule of the protocol that the server broke. -/
inductive Violation where
  | oldHttpVersion
  | missingUpgrade
  | missingConnection
  | wrongAccept
  | unaskedSubprotocol
  | unfinishedHandshake
  | head (error : HeadError)
  | reservedBits
  | maskedFrame
  | fragmentedControl
  | controlTooBig
  | nothingToContinue
  | expectedFragment (kind : DataKind)
  | resetWithoutClose
  | invalidOpcode (opcode : Nat)
  | invalidCloseBody
deriving DecidableEq, Repr

def Violation.message : Violation → String
  | .oldHttpVersion => "HTTP version must be 1.1 or higher"
  | .missingUpgrade => "No \"Upgrade: websocket\" header"
  | .missingConnection => "No \"Connection: upgrade\" header"
  | .wrongAccept => "Key mismatch in \"Sec-WebSocket-Accept\" header"
  | .unaskedSubprotocol =>
    "SubProtocol error: Server sent a subprotocol but none was requested"
  | .unfinishedHandshake => "Handshake not finished"
  | .head error => "httparse error: " ++ error.message
  | .reservedBits => "Reserved bits are non-zero"
  | .maskedFrame => "Received a masked frame from server"
  | .fragmentedControl => "Fragmented control frame"
  | .controlTooBig => "Control frame too big (payload must be 125 bytes or less)"
  | .nothingToContinue => "Continue frame but nothing to continue"
  | .expectedFragment kind => "While waiting for more fragments received: " ++ kind.name
  | .resetWithoutClose => "Connection reset without closing handshake"
  | .invalidOpcode opcode => s!"Encountered invalid opcode: {opcode}"
  | .invalidCloseBody => "Invalid close sequence"

/-- A limit that the server exceeded. -/
inductive Excess where
  | tooManyHeaders
  | tooLong (size limit : Nat)
deriving DecidableEq, Repr

def Excess.message : Excess → String
  | .tooManyHeaders => "Too many headers"
  | .tooLong size limit => s!"Message too long: {size} > {limit}"

/-- Why no request can be made for an address. -/
inductive RequestError where
  | tooLong
  | character
deriving DecidableEq, Repr

def RequestError.message : RequestError → String
  | .tooLong => "uri too long"
  | .character => "invalid uri character"

/-- The standard's words for a status. -/
def statusReasons : List (Nat × String) :=
  [(100, "Continue"), (101, "Switching Protocols"), (102, "Processing"), (200, "OK"),
    (201, "Created"), (202, "Accepted"), (203, "Non Authoritative Information"),
    (204, "No Content"), (205, "Reset Content"), (206, "Partial Content"), (207, "Multi-Status"),
    (208, "Already Reported"), (226, "IM Used"), (300, "Multiple Choices"),
    (301, "Moved Permanently"), (302, "Found"), (303, "See Other"), (304, "Not Modified"),
    (305, "Use Proxy"), (307, "Temporary Redirect"), (308, "Permanent Redirect"),
    (400, "Bad Request"), (401, "Unauthorized"), (402, "Payment Required"), (403, "Forbidden"),
    (404, "Not Found"), (405, "Method Not Allowed"), (406, "Not Acceptable"),
    (407, "Proxy Authentication Required"), (408, "Request Timeout"), (409, "Conflict"),
    (410, "Gone"), (411, "Length Required"), (412, "Precondition Failed"),
    (413, "Payload Too Large"), (414, "URI Too Long"), (415, "Unsupported Media Type"),
    (416, "Range Not Satisfiable"), (417, "Expectation Failed"), (418, "I'm a teapot"),
    (421, "Misdirected Request"), (422, "Unprocessable Entity"), (423, "Locked"),
    (424, "Failed Dependency"), (425, "Too Early"), (426, "Upgrade Required"),
    (428, "Precondition Required"), (429, "Too Many Requests"),
    (431, "Request Header Fields Too Large"), (451, "Unavailable For Legal Reasons"),
    (500, "Internal Server Error"), (501, "Not Implemented"), (502, "Bad Gateway"),
    (503, "Service Unavailable"), (504, "Gateway Timeout"), (505, "HTTP Version Not Supported"),
    (506, "Variant Also Negotiates"), (507, "Insufficient Storage"), (508, "Loop Detected"),
    (510, "Not Extended"), (511, "Network Authentication Required")]

def statusText (status : Nat) : String :=
  let reason := (statusReasons.lookup status).getD "<unknown status code>"
  s!"{status} {reason}"

/-- Why a connection was not made, or does not go on. -/
inductive Error where
  | network (failure : NetworkFailure)
  | request (error : RequestError)
  | excess (limit : Excess)
  | violation (rule : Violation)
  /-- A text is not UTF-8. -/
  | utf8
  /-- The server sends without end before it agrees. -/
  | attack
  /-- The server answers with another status than the one that agrees. -/
  | status (code : Nat)
  /-- The server answers with a number that is no status. -/
  | invalidStatus
deriving DecidableEq, Repr

def Error.message : Error → String
  | .network failure => "IO error: " ++ failure.message
  | .request error => "HTTP format error: " ++ error.message
  | .excess limit => "Space limit exceeded: " ++ limit.message
  | .violation rule => "WebSocket protocol error: " ++ rule.message
  | .utf8 => "UTF-8 encoding error"
  | .attack => "Attack attempt detected"
  | .status code => "HTTP error: " ++ statusText code
  | .invalidStatus => "HTTP format error: invalid status code"

end SyncProbe.WebSocket
