import Mathlib.Data.List.Basic
import SyncProbe.Proofs.Session.Pass

/-!
# All that a run does

A run takes up incidents until something ends it. A `Reading` is what it takes up, and how it ends.
`Session.Reads` cuts the reading out of what a run meets, without running anything, and
`Reading.course` says what a run does that reads so: the events that it tells, the frames that it
sends and what it comes to.

Results:
1. `exists_reads`: whatever a run meets, it has a reading.
2. `awaitState_of_reads`, `run_of_reads`: what a run does is the course of its reading.
-/

namespace SyncProbe

open WebSocket (CloseReason Message)

/-! ## How a run ends -/

/-- How a run ends that has a connection. -/
inductive Finish where
  /-- No message came within the idle timeout. -/
  | idle
  | interrupted
  /-- A close frame of the server was read. -/
  | closed (reason : Option CloseReason)
  /-- The signals ended without a close frame. -/
  | vanished
  | failed (error : WebSocket.Error)
  /-- Nothing ends the run. -/
  | never

namespace Finish

/-- The frames that are sent in the end. -/
def closing : Finish → List Outgoing
  | idle | interrupted => [.close none]
  | closed reason => [.close reason]
  | vanished | failed _ | never => []

/-- What a report says of the finish, if there is a report. -/
def ending? : Finish → Option Ending
  | idle => some .idleTimeout
  | interrupted => some .interrupted
  | closed reason => some (.ofClose reason)
  | vanished => some (.ofClose none)
  | failed _ | never => none

/-- The events in the end, where no message has come. -/
def earlyEvents : Finish → List Event
  | interrupted => [.stopped]
  | idle | closed _ | vanished | failed _ | never => []

def earlyOutcome (session : Session) : Finish → Outcome
  | interrupted => .reported ⟨session.endpoint, none, [], .interrupted⟩
  | closed _ | vanished => .failed .closedBeforeInitialState
  | failed error => .failed (.receive error)
  | idle | never => .pending

/-- The events in the end, behind a first message. -/
def lateEvents (session : Session) (finish : Finish) : List Event :=
  finish.ending?.toList.map session.farewell

def lateOutcome (session : Session) (received : Received) : Finish → Outcome
  | idle => session.reportOf received .idleTimeout
  | interrupted => session.reportOf received .interrupted
  | closed reason => session.reportOf received (.ofClose reason)
  | vanished => session.reportOf received (.ofClose none)
  | failed error => .failed (.receive error)
  | never => .pending

end Finish

namespace Incident

def ping? : Incident → Option Bytes
  | .signal (.ping data) => some data
  | _ => none

/-- How the incident ends a run, if it does so at once. -/
def finish? : Incident → Option Finish
  | .interrupted => some .interrupted
  | .ended => some .vanished
  | .signal (.closed reason) => some (.closed reason)
  | .signal (.failed error) => some (.failed error)
  | _ => none

theorem finish_of_verdict {next : Incident} {verdict : Verdict}
    (decides : next.verdict? = some verdict) : ∃ finish, next.finish? = some finish := by
  cases next with
  | interrupted | ended => exact ⟨_, rfl⟩
  | passed => cases decides
  | signal received =>
    cases received with
    | closed | failed => exact ⟨_, rfl⟩
    | message | ping | pong | piece => cases decides

end Incident

/-- The sizes of messages that have all arrived. -/
def Received.ofMessages (first : Message) (later : List Message) : Received :=
  ⟨messageSize first, later.map messageSize⟩

/-- The size of a message, and what is told of its contents. -/
def Session.content (session : Session) (message : Message) : Nat × Option Inspection :=
  (messageSize message, session.inspection message)

/-! ## Readings -/

/-- What a run takes up before its end, and how it ends. -/
structure Reading where
  read : List Incident
  finish : Finish

namespace Reading

def messages (reading : Reading) : List Message :=
  reading.read.filterMap Incident.message?

def pings (reading : Reading) : List Bytes :=
  reading.read.filterMap Incident.ping?

/-- The frames that are sent: an answer to each ping, and then those in the end. -/
def frames (reading : Reading) : List Outgoing :=
  reading.pings.map .pong ++ reading.finish.closing

/-- The event that tells of a message behind the first one. -/
def update (session : Session) (message : Message) : Event :=
  .update (messageSize message) (session.inspection message)

/-- What a run does behind the event that tells of its connection. -/
def course (session : Session) (reading : Reading) : Course :=
  match reading.messages with
  | [] => ⟨reading.finish.earlyEvents, reading.frames, reading.finish.earlyOutcome session⟩
  | first :: later =>
    ⟨.initialState (messageSize first) (session.inspection first) :: .waiting ::
        (later.map (update session) ++ reading.finish.lateEvents session),
      reading.frames, reading.finish.lateOutcome session (.ofMessages first later)⟩

end Reading

namespace Session

/-- `session.Reads incidents reading`: the run takes up what `reading` says of the incidents.

* `waits`: no message comes, and nothing ends the run.
* `early`: no message comes before the incident that ends the run.
* `late`: `heard` comes behind the first message, all of it in time, and then what ends the run.
* `idles`: in place of that, the idle timeout is over by the next incident, or there is none. -/
inductive Reads (session : Session) : List Incident → Reading → Prop
  | waits {before : List Incident} : Silent before → Reads session before ⟨before, .never⟩
  | early {before after : List Incident} {next : Incident} {finish : Finish} :
      Silent before → next.finish? = some finish →
      Reads session (before ++ next :: after) ⟨before, finish⟩
  | late {before heard after : List Incident} {first next : Incident} {message : Message}
      {finish : Finish} :
      Silent before → first.message? = some message → session.Listens 0 heard →
      next.finish? = some finish →
      Reads session (before ++ first :: (heard ++ next :: after)) ⟨before ++ first :: heard, finish⟩
  | idles {before heard after : List Incident} {first : Incident} {message : Message} :
      Silent before → first.message? = some message → session.Listens 0 heard →
      (∀ next ∈ after.head?, next.Expires session.idleTimeout (heard.foldl Incident.clock 0)) →
      Reads session (before ++ first :: (heard ++ after)) ⟨before ++ first :: heard, .idle⟩

variable {session : Session} {received : Received} {quiet : Nat}

theorem exists_reads (session : Session) (incidents : List Incident) :
    ∃ reading, session.Reads incidents reading := by
  rcases silent_or_first incidents with silent | ⟨before, next, after, rfl, silent, ends⟩
  · exact ⟨_, .waits silent⟩
  · rcases ends with ⟨message, arrives⟩ | ⟨verdict, decides⟩
    · rcases listens_or_first session 0 after with
        listens | ⟨heard, other, behind, rfl, listens, ⟨verdict, decides⟩ | expires⟩
      · have timeUp : ∀ next ∈ ([] : List Incident).head?,
            next.Expires session.idleTimeout (after.foldl Incident.clock 0) :=
          fun next found => absurd found (Option.not_mem_none next)
        have reads := Reads.idles silent arrives listens timeUp
        rw [List.append_nil] at reads
        exact ⟨_, reads⟩
      · obtain ⟨finish, ends⟩ := Incident.finish_of_verdict decides
        exact ⟨_, .late silent arrives listens ends⟩
      · refine ⟨_, .idles silent arrives listens fun next found => ?_⟩
        rw [← Option.some.inj found]
        exact expires
    · obtain ⟨finish, ends⟩ := Incident.finish_of_verdict decides
      exact ⟨_, .early silent ends⟩

/-! ## What the parts of a reading do -/

theorem answers_eq (incidents : List Incident) :
    incidents.flatMap Incident.answers = (incidents.filterMap Incident.ping?).map .pong := by
  have one (next : Incident) : next.answers = next.ping?.toList.map .pong := by
    cases next with
    | interrupted | ended | passed => rfl
    | signal received => cases received <;> rfl
  rw [List.filterMap_eq_flatMap_toList, List.map_flatMap]
  exact congrArg (incidents.flatMap ·) (funext one)

theorem told_eq (incidents : List Incident) :
    incidents.flatMap session.told =
      (incidents.filterMap Incident.message?).map (Reading.update session) := by
  have one (next : Incident) :
      session.told next = next.message?.toList.map (Reading.update session) := by
    rw [told]
    cases next.message? <;> rfl
  rw [List.filterMap_eq_flatMap_toList, List.map_flatMap]
  exact congrArg (incidents.flatMap ·) (funext one)

theorem sizes_eq (incidents : List Incident) :
    incidents.filterMap Incident.size? =
      (incidents.filterMap Incident.message?).map messageSize :=
  (List.map_filterMap ..).symm

theorem messages_of_silent {before : List Incident} (silent : Silent before) :
    before.filterMap Incident.message? = [] :=
  List.filterMap_eq_nil_iff.mpr fun incident member => (silent incident member).1

theorem awaitState_finish {next : Incident} {finish : Finish} (ends : next.finish? = some finish)
    (rest : List Incident) :
    session.awaitState (next :: rest) =
      ⟨finish.earlyEvents, finish.closing, finish.earlyOutcome session⟩ := by
  cases next with
  | passed => cases ends
  | interrupted | ended =>
    cases ends
    rfl
  | signal received =>
    cases received with
    | message | ping | pong | piece => cases ends
    | closed | failed =>
      cases ends
      rfl

theorem listen_finish {next : Incident} {finish : Finish} (ends : next.finish? = some finish)
    (rest : List Incident) :
    session.listen received quiet (next :: rest) =
      ⟨finish.lateEvents session, finish.closing, finish.lateOutcome session received⟩ := by
  cases next with
  | passed => cases ends
  | interrupted | ended =>
    cases ends
    rfl
  | signal received' =>
    cases received' with
    | message | ping | pong | piece => cases ends
    | closed | failed =>
      cases ends
      rfl

theorem listen_idle {after : List Incident}
    (timeUp : ∀ next ∈ after.head?, next.Expires session.idleTimeout quiet) :
    session.listen received quiet after =
      ⟨Finish.idle.lateEvents session, Finish.idle.closing,
        Finish.idle.lateOutcome session received⟩ := by
  cases after with
  | nil => rfl
  | cons next rest =>
    have expires := timeUp next rfl
    cases next with
    | interrupted | ended | signal => cases expires
    | passed milliseconds =>
      have overdue : session.idleTimeout ≤ quiet + milliseconds := expires
      rw [listen, if_pos overdue]
      rfl

/-- From the first message on, what is heard is told, counted and answered. -/
theorem awaitState_heard {before heard after : List Incident} {first : Incident}
    {message : Message} {finish : Finish} (silent : Silent before)
    (arrives : first.message? = some message) (listens : session.Listens 0 heard)
    (ends : ∀ received, session.listen received (heard.foldl Incident.clock 0) after =
      ⟨finish.lateEvents session, finish.closing, finish.lateOutcome session received⟩) :
    session.awaitState (before ++ first :: (heard ++ after)) =
      Reading.course session ⟨before ++ first :: heard, finish⟩ := by
  have messages : Reading.messages ⟨before ++ first :: heard, finish⟩ =
      message :: heard.filterMap Incident.message? := by
    rw [Reading.messages, List.filterMap_append, messages_of_silent silent,
      List.filterMap_cons_some arrives, List.nil_append]
  have noPing : first.answers = [] := by
    cases first with
    | interrupted | ended | passed => rfl
    | signal received =>
      cases received with
      | message | pong | piece | closed | failed => rfl
      | ping => cases arrives
  have frames : Reading.frames ⟨before ++ first :: heard, finish⟩ =
      before.flatMap Incident.answers ++ (heard.flatMap Incident.answers ++ finish.closing) := by
    rw [Reading.frames, Reading.pings, ← answers_eq, List.flatMap_append, List.flatMap_cons, noPing,
      List.nil_append, List.append_assoc]
  rw [awaitState_append silent, awaitState_message arrives, listen_append listens, ends,
    Course.following_following, Course.following_following, Reading.course, messages]
  simp only [Course.following, Received.hear, List.append_nil, List.nil_append, frames, told_eq,
    sizes_eq, List.append_assoc, List.cons_append, Received.ofMessages]

/-- What a run does is the course of its reading. -/
theorem awaitState_of_reads {incidents : List Incident} {reading : Reading}
    (reads : session.Reads incidents reading) :
    session.awaitState incidents = reading.course session := by
  cases reads with
  | waits silent =>
    have none := messages_of_silent silent
    rw [← List.append_nil incidents, awaitState_append silent, List.append_nil, Reading.course,
      Reading.messages, none, answers_eq]
    rfl
  | early silent ends =>
    rw [awaitState_append silent, awaitState_finish ends, Reading.course, Reading.messages,
      messages_of_silent silent, answers_eq]
    rfl
  | late silent arrives listens ends =>
    exact awaitState_heard silent arrives listens fun received => listen_finish ends _
  | idles silent arrives listens timeUp =>
    exact awaitState_heard silent arrives listens fun received => listen_idle timeUp

theorem run_of_reads {incidents : List Incident} {reading : Reading}
    (reads : session.Reads incidents reading) :
    session.run (.connected incidents) =
      (reading.course session).tell (.connected session.endpoint) := by
  rw [run, awaitState_of_reads reads]

end Session

end SyncProbe
