import SyncProbe.Failure
import SyncProbe.Report
import SyncProbe.WebSocket.Link

/-!
# A run of the probe

A server sends the state of its document as soon as a client is connected, and then the updates that
other clients make. A run records that first message and goes on to listen until no message came for
the idle timeout, until the server closes, or until the user interrupts it.

`Session.run` is a function of what the connection and the user bring, in order. Its `Course` has
everything that a run does: the events that it tells, the frames that it sends, and what it comes
to.

Only whole messages count as traffic. Pings are answered, and together with pongs and pieces of
messages they leave the idle timeout as it is. The wait for the first message has no timeout.
-/

namespace SyncProbe

open WebSocket (CloseReason Message Signal)

/-! ## What a run meets -/

/-- What an open connection and the user bring to a run. -/
inductive Incident where
  | signal (received : Signal)
  /-- There are no more signals, though the server did not close. -/
  | ended
  /-- The user stops the run. -/
  | interrupted
  /-- Time in which nothing else happens. -/
  | passed (milliseconds : Nat)
deriving DecidableEq, Repr

/-- What becomes of the attempt to connect. -/
inductive Attempt where
  /-- The server never answers. -/
  | unanswered
  /-- The user stops the run before the connection is made. -/
  | interrupted
  | failed (error : WebSocket.Error)
  /-- The connection is made. After the last incident, nothing but time follows. -/
  | connected (incidents : List Incident)
deriving DecidableEq, Repr

/-! ## What a run does -/

/-- A frame that the probe sends. -/
inductive Outgoing where
  | pong (data : Bytes)
  | close (reason : Option CloseReason)
deriving DecidableEq, Repr

/-- What a run comes to. -/
inductive Outcome where
  | reported (report : Report)
  | failed (error : ProbeError)
  /-- The run waits forever. -/
  | pending
deriving DecidableEq, Repr

/-- All that a run does, in order. -/
structure Course where
  events : List Event
  sent : List Outgoing
  outcome : Outcome
deriving DecidableEq, Repr

namespace Course

/-- A course that comes to its outcome at once. -/
def finish (outcome : Outcome) : Course :=
  ⟨[], [], outcome⟩

/-- A course that tells an event first. -/
def tell (event : Event) (course : Course) : Course :=
  { course with events := event :: course.events }

/-- A course that sends a frame first. -/
def send (frame : Outgoing) (course : Course) : Course :=
  { course with sent := frame :: course.sent }

end Course

/-! ## Running -/

/-- What a run is to do. -/
structure Session where
  endpoint : Url
  /-- The milliseconds to wait for each update. -/
  idleTimeout : Nat
  /-- Whether to look into each message. -/
  inspect : Bool
deriving DecidableEq, Repr

/-- The sizes of the messages that have arrived. -/
structure Received where
  initial : Nat
  updates : List Nat
deriving DecidableEq, Repr

def Received.add (received : Received) (size : Nat) : Received :=
  { received with updates := received.updates ++ [size] }

def Ending.ofClose : Option CloseReason → Ending
  | some reason => .serverClosed (some reason.code) reason.text
  | none => .serverClosed none ""

namespace Session

/-- What is told of a message's contents. -/
def inspection (session : Session) (message : Message) : Option Inspection :=
  if session.inspect then some (Inspection.ofBytes message.bytes) else none

/-- The idle timeout as it is told: a number of 64 bits, and the largest of them if it is longer. -/
def toldTimeout (session : Session) : Nat :=
  if session.idleTimeout < UInt64.size then session.idleTimeout else UInt64.size - 1

def farewell (session : Session) : Ending → Event
  | .idleTimeout => .idleTimeout session.toldTimeout
  | .interrupted => .disconnecting
  | .serverClosed code reason => .serverClosed code reason

/-- Ends a run with a report. -/
def conclude (session : Session) (received : Received) (ending : Ending) : Course :=
  (Course.finish
    (.reported ⟨session.endpoint, some received.initial, received.updates, ending⟩)).tell
      (session.farewell ending)

/-- Ends a run on the probe's own account: it closes the connection. -/
def leave (session : Session) (received : Received) (ending : Ending) : Course :=
  (session.conclude received ending).send (.close none)

/-- Listens for updates, after `quiet` milliseconds without a message. -/
def listen (session : Session) : Received → Nat → List Incident → Course
  | received, _, [] => session.leave received .idleTimeout
  | received, _, .interrupted :: _ => session.leave received .interrupted
  | received, quiet, .passed milliseconds :: rest =>
    if session.idleTimeout ≤ quiet + milliseconds then session.leave received .idleTimeout
    else session.listen received (quiet + milliseconds) rest
  | received, _, .signal (.message message) :: rest =>
    (session.listen (received.add message.bytes.length) 0 rest).tell
      (.update message.bytes.length (session.inspection message))
  | received, quiet, .signal (.ping data) :: rest =>
    (session.listen received quiet rest).send (.pong data)
  | received, quiet, .signal (.pong _) :: rest => session.listen received quiet rest
  | received, quiet, .signal .piece :: rest => session.listen received quiet rest
  | received, _, .signal (.closed reason) :: _ =>
    (session.conclude received (.ofClose reason)).send (.close reason)
  | received, _, .ended :: _ => session.conclude received (.ofClose none)
  | _, _, .signal (.failed error) :: _ => .finish (.failed (.receive error))

/-- Ends a run that no message has reached. -/
def stop (session : Session) : Course :=
  (Course.finish (.reported ⟨session.endpoint, none, [], .interrupted⟩)).tell .stopped

/-- Waits for the first message. -/
def awaitState (session : Session) : List Incident → Course
  | [] => .finish .pending
  | .interrupted :: _ => session.stop.send (.close none)
  | .passed _ :: rest => session.awaitState rest
  | .signal (.message message) :: rest =>
    let size := message.bytes.length
    ((session.listen ⟨size, []⟩ 0 rest).tell .waiting).tell
      (.initialState size (session.inspection message))
  | .signal (.ping data) :: rest => (session.awaitState rest).send (.pong data)
  | .signal (.pong _) :: rest => session.awaitState rest
  | .signal .piece :: rest => session.awaitState rest
  | .signal (.closed reason) :: _ =>
    (Course.finish (.failed .closedBeforeInitialState)).send (.close reason)
  | .ended :: _ => .finish (.failed .closedBeforeInitialState)
  | .signal (.failed error) :: _ => .finish (.failed (.receive error))

/-- Runs the probe. -/
def run (session : Session) : Attempt → Course
  | .unanswered => .finish .pending
  | .interrupted => session.stop
  | .failed error => .finish (.failed (.connect session.endpoint error))
  | .connected incidents => (session.awaitState incidents).tell (.connected session.endpoint)

end Session

end SyncProbe
