import SyncProbe.Session
import SyncProbe.WebSocket.Upgrade

/-!
# From the network to a run

A `Route` is all that the network does in a run: it does not carry the connection, or it carries
what the server sends, as long as it does not fail. `Route.attempt` reads the server's bytes, first
as the answer to the request for a connection and then as frames, into what a run meets.
-/

namespace SyncProbe

open WebSocket (Error Link NetworkFailure RequestError Upgrade.read)

/-- What happens at the ends of a connection. -/
inductive Happening where
  /-- Bytes of the server arrive. -/
  | arrived (bytes : Bytes)
  /-- The server ends its side of the stream. -/
  | hungUp
  /-- The network fails. -/
  | broke (failure : NetworkFailure)
  /-- The user stops the run. -/
  | interrupted
  /-- Time in which nothing else happens. -/
  | passed (milliseconds : Nat)
deriving DecidableEq, Repr

/-- What the network does with a connection. -/
inductive Route where
  | blocked (failure : NetworkFailure)
  /-- The network carries the connection. After the last happening, both sides stay silent. -/
  | carried (happenings : List Happening)
deriving DecidableEq, Repr

namespace Route

/-! ## The request -/

/-- The most bytes that an address may have in a request. -/
def maxAddress : Nat := 65534

/-- What a domain name may hold, and an address in a request may not. -/
def outsideAddress (c : Char) : Bool :=
  ['"', '\x60', '{', '}'].contains c

/-- Why no request can be made for an endpoint. -/
def requestError? (endpoint : Url) : Option RequestError :=
  if maxAddress < endpoint.text.utf8ByteSize then some .tooLong
  else
    match endpoint.host? with
    | some (.domain name) => if name.toList.any outsideAddress then some .character else none
    | _ => none

/-! ## The answer -/

/-- What a run meets on an open connection. Nothing matters after a signal that is the last. -/
def incidents : Link → List Happening → List Incident
  | _, [] => []
  | link, .passed milliseconds :: rest => .passed milliseconds :: incidents link rest
  | link, .interrupted :: rest => .interrupted :: incidents link rest
  | _, .hungUp :: _ => [.signal (.failed (.violation .resetWithoutClose))]
  | _, .broke failure :: _ => [.signal (.failed (.network failure))]
  | link, .arrived bytes :: rest =>
    match link.receive bytes with
    | (signals, some link) => signals.map .signal ++ incidents link rest
    | (signals, none) => signals.map .signal

/-- What becomes of the request, where `head` has arrived of the answer to it. -/
def answer : Bytes → List Happening → Attempt
  | _, [] => .unanswered
  | _, .interrupted :: _ => .interrupted
  | _, .hungUp :: _ => .failed (.violation .unfinishedHandshake)
  | _, .broke failure :: _ => .failed (.network failure)
  | head, .passed _ :: rest => answer head rest
  | head, .arrived bytes :: rest =>
    match Upgrade.read (head ++ bytes) with
    | .unfinished => answer (head ++ bytes) rest
    | .refused error => .failed error
    | .complete _ waiting => .connected (incidents {} (.arrived waiting :: rest))

/-- What becomes of the attempt to connect to an endpoint. -/
def attempt (route : Route) (endpoint : Url) : Attempt :=
  match requestError? endpoint, route with
  | some error, _ => .failed (.request error)
  | none, blocked failure => .failed (.network failure)
  | none, carried happenings => answer [] happenings

end Route

end SyncProbe
