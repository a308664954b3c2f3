import SyncProbe.Session

/-!
# What one incident does to a run

An incident decides a run, or the run goes on after it. What decides a run is a `Verdict`: the user
or the server or the connection speaks it, or the idle timeout runs out. What goes on is said here
once for each of the two phases, and then for any number of incidents.

Results:
1. `listen_step`, `listen_append`: while nothing decides the run, each message is told and counted,
   each ping is answered, and time adds up since the last message.
2. `awaitState_step`, `awaitState_append`: before the first message, only pings are answered.
3. `listen_verdict`, `listen_expired`, `awaitState_verdict`: what the run comes to.
-/

namespace SyncProbe

open WebSocket (CloseReason Message)

/-! ## Incidents -/

/-- The bytes of a message, counted without writing them down. -/
def messageSize : Message → Nat
  | .text content => content.utf8ByteSize
  | .binary content => content.length

theorem length_bytes (message : Message) : message.bytes.length = messageSize message := by
  cases message with
  | text content =>
    show content.toByteArray.data.toList.length = content.utf8ByteSize
    rw [Array.length_toList]
    rfl
  | binary content => rfl

/-- What decides a run by itself. A stream that ends is closed without a reason. -/
inductive Verdict where
  | interrupted
  | closed (reason : Option CloseReason)
  | failed (error : WebSocket.Error)

namespace Incident

def message? : Incident → Option Message
  | .signal (.message message) => some message
  | _ => none

/-- The size of the message, where there is one. -/
def size? (incident : Incident) : Option Nat :=
  incident.message?.map messageSize

def verdict? : Incident → Option Verdict
  | .interrupted => some .interrupted
  | .ended => some (.closed none)
  | .signal (.closed reason) => some (.closed reason)
  | .signal (.failed error) => some (.failed error)
  | _ => none

/-- The time since the last message, after the incident. -/
def clock (quiet : Nat) : Incident → Nat
  | .passed milliseconds => quiet + milliseconds
  | .signal (.message _) => 0
  | _ => quiet

/-- The incident lets the idle timeout run out. -/
def Expires (timeout quiet : Nat) : Incident → Prop
  | .passed milliseconds => timeout ≤ quiet + milliseconds
  | _ => False

/-- The frames that answer the incident. -/
def answers : Incident → List Outgoing
  | .signal (.ping data) => [.pong data]
  | _ => []

end Incident

/-- The sizes with those of further messages. -/
def Received.hear (received : Received) (incidents : List Incident) : Received :=
  { received with updates := received.updates ++ incidents.filterMap Incident.size? }

/-- A course that has done something before. -/
def Course.following (course : Course) (events : List Event) (sent : List Outgoing) : Course :=
  ⟨events ++ course.events, sent ++ course.sent, course.outcome⟩

namespace Received

theorem hear_nil (received : Received) : received.hear [] = received := by
  simp only [hear, List.filterMap_nil, List.append_nil]

theorem hear_hear (received : Received) (heard next : List Incident) :
    (received.hear heard).hear next = received.hear (heard ++ next) := by
  simp only [hear, List.filterMap_append, List.append_assoc]

end Received

namespace Course

@[simp] theorem following_outcome (course : Course) (events : List Event) (sent : List Outgoing) :
    (course.following events sent).outcome = course.outcome := rfl

theorem following_following (course : Course) (events events' : List Event)
    (sent sent' : List Outgoing) :
    (course.following events' sent').following events sent =
      course.following (events ++ events') (sent ++ sent') := by
  simp only [following, List.append_assoc]

end Course

namespace Session

/-- The events that tell of the incident after the first message. -/
def told (session : Session) (incident : Incident) : List Event :=
  match incident.message? with
  | some message => [.update (messageSize message) (session.inspection message)]
  | none => []

/-- What a run comes to that is decided before the first message. -/
def earlyOutcome (session : Session) : Verdict → Outcome
  | .interrupted => .reported ⟨session.endpoint, none, [], .interrupted⟩
  | .closed _ => .failed .closedBeforeInitialState
  | .failed error => .failed (.receive error)

/-- A report on what was received. -/
def reportOf (session : Session) (received : Received) (ending : Ending) : Outcome :=
  .reported ⟨session.endpoint, some received.initial, received.updates, ending⟩

/-- What a run comes to that is decided later. -/
def lateOutcome (session : Session) (received : Received) : Verdict → Outcome
  | .interrupted => session.reportOf received .interrupted
  | .closed (some reason) =>
    session.reportOf received (.serverClosed (some reason.code) reason.text)
  | .closed none => session.reportOf received (.serverClosed none "")
  | .failed error => .failed (.receive error)

variable {session : Session} {received : Received} {quiet : Nat}

theorem verdict_of_message {incident : Incident} {message : Message}
    (arrives : incident.message? = some message) : incident.verdict? = none := by
  cases incident with
  | interrupted | ended | passed => cases arrives
  | signal received =>
    cases received with
    | message => rfl
    | ping | pong | piece | closed | failed => cases arrives

/-- Whether the incident is a ping, a pong or a piece of a message. -/
def isControl : Incident → Bool
  | .signal (.ping _) | .signal (.pong _) | .signal .piece => true
  | _ => false

theorem isControl_cases {next : Incident} (control : isControl next = true) :
    next.message? = none ∧ next.verdict? = none ∧
      (∀ timeout quiet, ¬ next.Expires timeout quiet) ∧ ∀ quiet, next.clock quiet = quiet := by
  cases next with
  | interrupted | ended | passed => cases control
  | signal received =>
    cases received with
    | ping | pong | piece => exact ⟨rfl, rfl, fun _ _ => id, fun _ => rfl⟩
    | message | closed | failed => cases control

theorem hear_of_no_message {next : Incident} (noMessage : next.message? = none) :
    received.hear [next] = received := by
  have noSize : next.size? = none := by rw [Incident.size?, noMessage, Option.map_none]
  rw [Received.hear, List.filterMap_cons_none noSize, List.filterMap_nil, List.append_nil]

theorem told_of_no_message {next : Incident} (noMessage : next.message? = none) :
    session.told next = [] := by
  rw [told, noMessage]

/-! ## Listening -/

/-- Nothing among the incidents decides the run, `quiet` milliseconds after the last message. -/
def Listens (session : Session) (quiet : Nat) (heard : List Incident) : Prop :=
  ∀ part next behind, heard = part ++ next :: behind →
    next.verdict? = none ∧ ¬ next.Expires session.idleTimeout (part.foldl Incident.clock quiet)

theorem listens_nil : session.Listens quiet [] := by
  intro part next behind equal
  exact absurd equal (by simp)

theorem listens_cons_iff {next : Incident} {heard : List Incident} :
    session.Listens quiet (next :: heard) ↔
      (next.verdict? = none ∧ ¬ next.Expires session.idleTimeout quiet) ∧
        session.Listens (next.clock quiet) heard := by
  constructor
  · intro listens
    refine ⟨listens [] next heard rfl, ?_⟩
    rintro part other behind rfl
    exact listens (next :: part) other behind rfl
  · rintro ⟨first, others⟩ part other behind equal
    cases part with
    | nil =>
      obtain ⟨rfl, rfl⟩ := List.cons.inj equal
      exact first
    | cons head part =>
      obtain ⟨rfl, rfl⟩ := List.cons.inj equal
      exact others part other behind rfl

/-- An incident that decides nothing is told, counted and answered, and the run goes on. -/
theorem listen_step {next : Incident} (undecided : next.verdict? = none)
    (inTime : ¬ next.Expires session.idleTimeout quiet) (rest : List Incident) :
    session.listen received quiet (next :: rest) =
      (session.listen (received.hear [next]) (next.clock quiet) rest).following
        (session.told next) next.answers := by
  cases next with
  | interrupted | ended => cases undecided
  | passed milliseconds =>
    have within : ¬ session.idleTimeout ≤ quiet + milliseconds := inTime
    rw [listen, if_neg within, Received.hear, List.filterMap_cons_none rfl, List.filterMap_nil,
      List.append_nil]
    rfl
  | signal received' =>
    cases received' with
    | message message =>
      rw [listen, length_bytes]
      rfl
    | ping | pong | piece =>
      rw [listen, Received.hear, List.filterMap_cons_none rfl, List.filterMap_nil, List.append_nil]
      rfl
    | closed | failed => cases undecided

/-- The incidents before the one that decides the run. -/
theorem listen_append {heard : List Incident} (listens : session.Listens quiet heard)
    (rest : List Incident) :
    session.listen received quiet (heard ++ rest) =
      (session.listen (received.hear heard) (heard.foldl Incident.clock quiet) rest).following
        (heard.flatMap session.told) (heard.flatMap Incident.answers) := by
  induction heard generalizing received quiet with
  | nil =>
    rw [Received.hear_nil]
    rfl
  | cons next heard ih =>
    obtain ⟨⟨undecided, inTime⟩, others⟩ := listens_cons_iff.mp listens
    rw [List.cons_append, listen_step undecided inTime, ih others, Received.hear_hear,
      Course.following_following]
    rfl

theorem listen_verdict {next : Incident} {verdict : Verdict}
    (decides : next.verdict? = some verdict) (rest : List Incident) :
    (session.listen received quiet (next :: rest)).outcome =
      session.lateOutcome received verdict := by
  cases next with
  | passed => cases decides
  | interrupted | ended =>
    cases decides
    rfl
  | signal received' =>
    cases received' with
    | message | ping | pong | piece => cases decides
    | failed =>
      cases decides
      rfl
    | closed reason =>
      cases decides
      cases reason <;> rfl

theorem listen_expired {next : Incident} (expires : next.Expires session.idleTimeout quiet)
    (rest : List Incident) :
    (session.listen received quiet (next :: rest)).outcome =
      session.reportOf received .idleTimeout := by
  cases next with
  | passed milliseconds =>
    have overdue : session.idleTimeout ≤ quiet + milliseconds := expires
    rw [listen, if_pos overdue]
    rfl
  | interrupted | ended => cases expires
  | signal => cases expires

theorem listen_nil :
    (session.listen received quiet []).outcome = session.reportOf received .idleTimeout := rfl

/-! ## Waiting for the first message -/

/-- No message comes and nothing decides the run. -/
def Silent (before : List Incident) : Prop :=
  ∀ incident ∈ before, incident.message? = none ∧ incident.verdict? = none

theorem awaitState_step {next : Incident} (noMessage : next.message? = none)
    (undecided : next.verdict? = none) (rest : List Incident) :
    session.awaitState (next :: rest) = (session.awaitState rest).following [] next.answers := by
  cases next with
  | interrupted | ended => cases undecided
  | passed => rfl
  | signal received =>
    cases received with
    | message => cases noMessage
    | ping | pong | piece => rfl
    | closed | failed => cases undecided

theorem awaitState_append {before : List Incident} (silent : Silent before)
    (rest : List Incident) :
    session.awaitState (before ++ rest) =
      (session.awaitState rest).following [] (before.flatMap Incident.answers) := by
  induction before with
  | nil => rfl
  | cons next before ih =>
    obtain ⟨noMessage, undecided⟩ := silent next (by simp)
    rw [List.cons_append, awaitState_step noMessage undecided,
      ih fun other member => silent other (by simp [member]), Course.following_following]
    rfl

theorem awaitState_message {next : Incident} {message : Message}
    (arrives : next.message? = some message) (rest : List Incident) :
    session.awaitState (next :: rest) =
      (session.listen ⟨messageSize message, []⟩ 0 rest).following
        [.initialState (messageSize message) (session.inspection message), .waiting] [] := by
  cases next with
  | interrupted | ended | passed => cases arrives
  | signal received =>
    cases received with
    | message =>
      cases arrives
      rw [awaitState, length_bytes]
      rfl
    | ping | pong | piece | closed | failed => cases arrives

theorem awaitState_verdict {next : Incident} {verdict : Verdict}
    (decides : next.verdict? = some verdict) (rest : List Incident) :
    (session.awaitState (next :: rest)).outcome = session.earlyOutcome verdict := by
  cases next with
  | passed => cases decides
  | interrupted | ended =>
    cases decides
    rfl
  | signal received =>
    cases received with
    | message | ping | pong | piece => cases decides
    | failed | closed =>
      cases decides
      rfl

theorem awaitState_nil : (session.awaitState []).outcome = .pending := rfl

end Session

end SyncProbe
