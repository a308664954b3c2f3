import SyncProbe.Proofs.Session.Steps

/-!
# The probe's side of a connection

A connection answers pings and close frames by itself, but not at once: it queues one reply, and
sends it when it is next read from. A reply that nobody reads on for is lost, and a pong gives way
to the reply behind it. So the frames of a run depend on how the run goes on after each signal.

Here a run is written down with such a connection: `Socket.awaitMessage` reads up to the next
message, `Socket.acknowledge` reads on behind a close frame, and `Socket.close` closes from this
side. `Session.runOn` uses them, and `Session.run` tells in one pass what it sends.

Results:
1. `sent_acknowledge`: behind a close frame, reading on sends the reply and nothing else.
2. `listenOn_eq`, `awaitStateOn_eq`: every reply is sent, and before anything that comes later.
3. `runOn_eq_run`: a run with a socket is the run.
-/

namespace SyncProbe

open WebSocket (CloseReason Message Signal)

/-! ## The socket -/

/-- The probe's side of an open connection. -/
structure Socket where
  sent : List Outgoing := []
  /-- The reply that is still to be sent. -/
  queued : Option Outgoing := none
  /-- Neither side has closed. -/
  active : Bool := true

/-- What waiting for a message comes to. -/
inductive Awaited where
  | message (content : Message)
  | closed (reason : Option CloseReason)
  | failed (error : WebSocket.Error)
  | interrupted
  /-- The timeout is over. -/
  | expired
  /-- Nothing happens any more, and there is no timeout. -/
  | nothing

namespace Socket

/-- The frames on the wire, once the queue is sent. -/
def wire (socket : Socket) : List Outgoing :=
  socket.sent ++ socket.queued.toList

/-- Sends what is queued. -/
def flush (socket : Socket) : Socket :=
  { socket with sent := socket.wire, queued := none }

/-- Queues a reply. A pong that is still queued gives way to it, and a close frame does not. -/
def reply (socket : Socket) (frame : Outgoing) : Socket :=
  match socket.queued with
  | some (.close _) => socket
  | _ => { socket with queued := some frame }

/-- Takes up a signal. Once a side has closed, nothing is replied to. -/
def receive (socket : Socket) : Signal → Socket
  | .ping data => if socket.active then socket.reply (.pong data) else socket
  | .closed reason =>
    if socket.active then { socket.reply (.close reason) with active := false } else socket
  | _ => socket

/-- Closes from this side, unless a side has closed, and sends what is queued. -/
def close (socket : Socket) : Socket :=
  if socket.active then
    flush { socket with sent := socket.sent ++ [.close none], active := false }
  else socket.flush

/-- Reads up to the next message, where no message came for `quiet` milliseconds. Each time, what is
queued is sent before anything is read. Gives what is left to happen. -/
def awaitMessage (timeout : Option Nat) :
    Nat → Socket → List Incident → Awaited × Socket × List Incident
  | _, socket, [] => (if timeout.isSome then .expired else .nothing, socket.flush, [])
  | _, socket, .interrupted :: rest => (.interrupted, socket.flush, rest)
  | quiet, socket, .passed milliseconds :: rest =>
    if timeout.any (· ≤ quiet + milliseconds) then (.expired, socket.flush, rest)
    else awaitMessage timeout (quiet + milliseconds) socket.flush rest
  | _, socket, .ended :: _ => (.closed none, socket.flush, [])
  | _, socket, .signal (.failed error) :: _ => (.failed error, socket.flush, [])
  | _, socket, .signal (.message message) :: rest => (.message message, socket.flush, rest)
  | _, socket, .signal (.closed reason) :: rest =>
    (.closed reason, socket.flush.receive (.closed reason), rest)
  | quiet, socket, .signal received :: rest =>
    awaitMessage timeout quiet (socket.flush.receive received) rest

/-- Reads on behind a close frame until the connection ends, for `grace` milliseconds at most. -/
def acknowledge : Nat → Socket → List Incident → Socket
  | _, socket, [] => socket.flush
  | grace, socket, .passed milliseconds :: rest =>
    if grace ≤ milliseconds then socket.flush
    else acknowledge (grace - milliseconds) socket.flush rest
  | grace, socket, .interrupted :: rest => acknowledge grace socket.flush rest
  | _, socket, .ended :: _ => socket.flush
  | _, socket, .signal (.failed _) :: _ => socket.flush
  | grace, socket, .signal received :: rest =>
    acknowledge grace (socket.flush.receive received) rest

/-- The milliseconds that the server has to end a connection that it closed. -/
def closeGrace : Nat := 1000

end Socket

/-! ## Runs with a socket -/

/-- A course whose frames are all on the wire. -/
def Course.withSent (course : Course) (sent : List Outgoing) : Course :=
  { course with sent }

namespace Session

open Socket (awaitMessage acknowledge closeGrace)

/-- Listens for updates, after `quiet` milliseconds without a message. It takes at most `steps`
messages. -/
def listenOn (session : Session) : Nat → Received → Nat → Socket → List Incident → Course
  | 0, _, _, socket, _ => (Course.finish .pending).withSent socket.sent
  | steps + 1, received, quiet, socket, incidents =>
    match socket.awaitMessage (some session.idleTimeout) quiet incidents with
    | (.message message, socket, rest) =>
      (session.listenOn steps (received.add message.bytes.length) 0 socket rest).tell
        (.update message.bytes.length (session.inspection message))
    | (.closed reason, socket, rest) =>
      (session.conclude received (.ofClose reason)).withSent
        (socket.acknowledge closeGrace rest).sent
    | (.failed error, socket, _) =>
      (Course.finish (.failed (.receive error))).withSent socket.sent
    | (.interrupted, socket, _) =>
      (session.conclude received .interrupted).withSent socket.close.sent
    | (.expired, socket, _) => (session.conclude received .idleTimeout).withSent socket.close.sent
    | (.nothing, socket, _) => (Course.finish .pending).withSent socket.sent

/-- Waits for the first message. Every message behind it is one of the incidents. -/
def awaitStateOn (session : Session) (socket : Socket) (incidents : List Incident) : Course :=
  match socket.awaitMessage none 0 incidents with
  | (.message message, socket, rest) =>
    let size := message.bytes.length
    ((session.listenOn (rest.length + 1) ⟨size, []⟩ 0 socket rest).tell .waiting).tell
      (.initialState size (session.inspection message))
  | (.closed _, socket, rest) =>
    (Course.finish (.failed .closedBeforeInitialState)).withSent
      (socket.acknowledge closeGrace rest).sent
  | (.failed error, socket, _) => (Course.finish (.failed (.receive error))).withSent socket.sent
  | (.interrupted, socket, _) => session.stop.withSent socket.close.sent
  | (.expired, socket, _) | (.nothing, socket, _) => (Course.finish .pending).withSent socket.sent

/-- Runs the probe with a socket. -/
def runOn (session : Session) : Attempt → Course
  | .unanswered => .finish .pending
  | .interrupted => session.stop
  | .failed error => .finish (.failed (.connect session.endpoint error))
  | .connected incidents => (session.awaitStateOn {} incidents).tell (.connected session.endpoint)

end Session

/-! ## What a socket sends -/

namespace Socket

variable {socket : Socket}

@[simp] theorem wire_flush : socket.flush.wire = socket.wire :=
  List.append_nil _

@[simp] theorem active_flush : socket.flush.active = socket.active := rfl

theorem receive_of_inactive (inactive : socket.active = false) (received : Signal) :
    socket.receive received = socket := by
  cases received <;> simp only [receive, inactive, Bool.false_eq_true, if_false]

/-- The queue is empty once it is sent, so that a reply finds its place. -/
theorem receive_ping (active : socket.active = true) (data : Bytes) :
    socket.flush.receive (.ping data) =
      { socket.flush with queued := some (.pong data) } := by
  have active' : socket.flush.active = true := active
  rw [receive, if_pos active']
  rfl

theorem receive_closed (active : socket.active = true) (reason : Option CloseReason) :
    socket.flush.receive (.closed reason) =
      { socket.flush with queued := some (.close reason), active := false } := by
  have active' : socket.flush.active = true := active
  rw [receive, if_pos active']
  rfl

theorem sent_close (active : socket.active = true) :
    socket.flush.close.sent = socket.wire ++ [.close none] := by
  simp only [close, active_flush, active, if_true]
  exact List.append_nil _

/-- Without a timeout, the time that has gone by does not matter. -/
theorem awaitMessage_none (quiet quiet' : Nat) (socket : Socket) (incidents : List Incident) :
    socket.awaitMessage none quiet incidents = socket.awaitMessage none quiet' incidents := by
  induction incidents generalizing quiet quiet' socket with
  | nil => rfl
  | cons next rest ih =>
    cases next with
    | interrupted | ended => rfl
    | passed milliseconds => exact ih _ _ _
    | signal received =>
      cases received with
      | message | closed | failed => rfl
      | ping | pong | piece => exact ih _ _ _

/-- Behind a close frame, reading on sends what is queued, and nothing else is replied to. -/
theorem sent_acknowledge (inactive : socket.active = false) (grace : Nat) (rest : List Incident) :
    (socket.acknowledge grace rest).sent = socket.wire := by
  induction rest generalizing socket grace with
  | nil => rfl
  | cons next rest ih =>
    have inactive' : socket.flush.active = false := inactive
    have onward (grace : Nat) : (socket.flush.acknowledge grace rest).sent = socket.wire := by
      rw [ih inactive', wire_flush]
    cases next with
    | ended => rfl
    | interrupted => exact onward grace
    | passed milliseconds =>
      rw [acknowledge]
      split
      · rfl
      · exact onward _
    | signal received =>
      cases received with
      | failed => rfl
      | message | ping | pong | piece | closed =>
        rw [acknowledge, receive_of_inactive inactive']
        · exact onward grace
        all_goals exact fun error => Signal.noConfusion

end Socket

/-! ## The same run -/

namespace Session

variable {session : Session} {received : Received} {quiet steps : Nat} {socket : Socket}
  {incidents : List Incident}

theorem following_send (course : Course) (frame : Outgoing) (sent : List Outgoing) :
    (course.send frame).following [] sent = course.following [] (sent ++ [frame]) := by
  simp only [Course.send, Course.following, List.append_assoc, List.singleton_append]

theorem following_of_silent {course : Course} (silent : course.sent = []) (sent : List Outgoing) :
    course.following [] sent = course.withSent sent := by
  rw [Course.following, silent, List.append_nil, List.nil_append]
  rfl

/-- To close sends what is queued first. -/
theorem leave_following (active : socket.active = true) (ending : Ending) :
    (session.leave received ending).following [] socket.wire =
      (session.conclude received ending).withSent socket.flush.close.sent := by
  rw [leave, following_send, following_of_silent rfl, Socket.sent_close active]

/-- Listening goes on alike where the same message is awaited. -/
theorem listenOn_congr {quiet' : Nat} {socket' : Socket} {incidents' : List Incident}
    (same : socket.awaitMessage (some session.idleTimeout) quiet incidents =
      socket'.awaitMessage (some session.idleTimeout) quiet' incidents') :
    session.listenOn (steps + 1) received quiet socket incidents =
      session.listenOn (steps + 1) received quiet' socket' incidents' := by
  rw [listenOn, listenOn, same]

/-- Every reply is sent, and before anything that comes later. The induction is on the incidents,
and what it keeps is that the frames on the wire count with the queued one. -/
theorem listenOn_eq (active : socket.active = true) (enough : incidents.length ≤ steps) :
    session.listenOn (steps + 1) received quiet socket incidents =
      (session.listen received quiet incidents).following [] socket.wire := by
  induction incidents generalizing received quiet socket steps with
  | nil => exact (leave_following active .idleTimeout).symm
  | cons next rest ih =>
    have fewer : rest.length ≤ steps := Nat.le_of_succ_le enough
    -- Behind an incident that is passed over, the same message is awaited.
    have onward (quiet' : Nat) (socket' : Socket)
        (reads : socket.awaitMessage (some session.idleTimeout) quiet (next :: rest) =
          socket'.awaitMessage (some session.idleTimeout) quiet' rest)
        (active' : socket'.active = true) :
        session.listenOn (steps + 1) received quiet socket (next :: rest) =
          (session.listen received quiet' rest).following [] socket'.wire := by
      rw [listenOn_congr reads, ih active' fewer]
    cases next with
    | interrupted => exact (leave_following active .interrupted).symm
    | ended =>
      rw [listen, following_of_silent rfl, ← Socket.wire_flush]
      rfl
    | passed milliseconds =>
      by_cases overdue : session.idleTimeout ≤ quiet + milliseconds
      · rw [listen, if_pos overdue, leave_following active, listenOn, Socket.awaitMessage,
          if_pos (by simpa using overdue)]
      · have reads : socket.awaitMessage (some session.idleTimeout) quiet
            (.passed milliseconds :: rest) = socket.flush.awaitMessage (some session.idleTimeout)
              (quiet + milliseconds) rest := by
          rw [Socket.awaitMessage, if_neg (by simpa using overdue)]
        rw [onward _ socket.flush reads active, listen, if_neg overdue, Socket.wire_flush]
    | signal signal =>
      cases signal with
      | message message =>
        obtain ⟨steps, rfl⟩ : ∃ fewer, steps = fewer + 1 :=
          Nat.exists_eq_succ_of_ne_zero (Nat.ne_zero_of_lt enough)
        have active' : socket.flush.active = true := active
        show (session.listenOn (steps + 1) _ 0 socket.flush rest).tell _ = _
        rw [ih active' (Nat.le_of_succ_le_succ enough), Socket.wire_flush]
        rfl
      | ping data =>
        rw [onward quiet (socket.flush.receive (.ping data)) rfl
          (by rw [Socket.receive_ping active]; exact active), listen, following_send,
          Socket.receive_ping active]
        rfl
      | pong | piece =>
        rw [onward quiet socket.flush rfl active, listen, Socket.wire_flush]
      | closed reason =>
        show Course.withSent _ (Socket.acknowledge _ (socket.flush.receive _) rest).sent = _
        rw [Socket.receive_closed active, Socket.sent_acknowledge rfl, listen, following_send,
          following_of_silent rfl]
        rfl
      | failed error =>
        rw [listen, following_of_silent rfl]
        rfl

theorem awaitStateOn_congr {socket' : Socket} {incidents' : List Incident}
    (same : socket.awaitMessage none 0 incidents = socket'.awaitMessage none 0 incidents') :
    session.awaitStateOn socket incidents = session.awaitStateOn socket' incidents' := by
  rw [awaitStateOn, awaitStateOn, same]

theorem awaitStateOn_eq (active : socket.active = true) :
    session.awaitStateOn socket incidents =
      (session.awaitState incidents).following [] socket.wire := by
  induction incidents generalizing socket with
  | nil => exact (following_of_silent rfl _).symm
  | cons next rest ih =>
    have onward (socket' : Socket)
        (reads : socket.awaitMessage none 0 (next :: rest) = socket'.awaitMessage none 0 rest)
        (active' : socket'.active = true) :
        session.awaitStateOn socket (next :: rest) =
          (session.awaitState rest).following [] socket'.wire := by
      rw [awaitStateOn_congr reads, ih active']
    cases next with
    | interrupted =>
      rw [awaitState, following_send, following_of_silent rfl, ← Socket.sent_close active]
      rfl
    | ended =>
      rw [awaitState, following_of_silent rfl, ← Socket.wire_flush]
      rfl
    | passed milliseconds =>
      rw [onward socket.flush (Socket.awaitMessage_none _ 0 socket.flush rest) active, awaitState,
        Socket.wire_flush]
    | signal signal =>
      cases signal with
      | message message =>
        have active' : socket.flush.active = true := active
        show ((session.listenOn (rest.length + 1) _ 0 socket.flush rest).tell _).tell _ = _
        rw [listenOn_eq active' (Nat.le_refl _), Socket.wire_flush]
        rfl
      | ping data =>
        rw [onward (socket.flush.receive (.ping data)) rfl
          (by rw [Socket.receive_ping active]; exact active), awaitState, following_send,
          Socket.receive_ping active]
        rfl
      | pong | piece =>
        rw [onward socket.flush rfl active, awaitState, Socket.wire_flush]
      | closed reason =>
        show Course.withSent _ (Socket.acknowledge _ (socket.flush.receive _) rest).sent = _
        rw [Socket.receive_closed active, Socket.sent_acknowledge rfl, awaitState, following_send,
          following_of_silent rfl]
        rfl
      | failed error =>
        rw [awaitState, following_of_silent rfl]
        rfl

/-- A run with a socket is the run. -/
theorem runOn_eq_run (session : Session) (attempt : Attempt) :
    session.runOn attempt = session.run attempt := by
  cases attempt with
  | unanswered | interrupted | failed => rfl
  | connected incidents =>
    have active : ({} : Socket).active = true := rfl
    rw [runOn, awaitStateOn_eq active, run]
    rfl

end Session

end SyncProbe
