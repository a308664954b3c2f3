import SyncProbe.Program
import SyncProbe.Proofs.Frame.Wording
import SyncProbe.Proofs.Output.Objects

/-!
# What a run can tell

The sizes that a run tells are those of messages that arrived, its frames are inspections of such
messages, and it tells a reason of a close only with a code. A link takes no message that is too
long, so all of these numbers fit.

A property of this kind is kept by each step of a run, and the proof has one lemma for each layer:
what a link signals, what a route brings to a run, and what a session makes of it.

Results:
1. `Link.bounded_of_readFrames`: the signals of a link are bounded.
2. `Configuration.bounded_run`: over any network, the events of a run are `Tellable`.
3. `Invocation.fits_of_mem_entries`: everything that a program writes has numbers that fit.
-/

namespace SyncProbe

open WebSocket (CloseReason Link Message Opcode Pieces Signal)

/-! ## Events that a run can tell -/

theorem Inspection.fits_ofBytes {data : Bytes} (small : data.length < UInt64.size) :
    (ofBytes data).Fits := by
  unfold ofBytes
  cases inspects : Summary.inspect data with
  | error => trivial
  | ok summary =>
    obtain ⟨frame, rest, decodes, rfl⟩ := Summary.inspect_eq_ok_iff.mp inspects
    obtain ⟨layout, describes, rfl, rfl⟩ := Frame.decode_eq_ok_iff.mp decodes
    have parts : layout.payload.length + layout.rest.length ≤ layout.bytes.length := by
      simp only [Frame.Layout.bytes, List.length_cons, List.length_append]
      omega
    have payload : frame.payload = layout.payload := by cases describes <;> rfl
    refine ⟨?_, ?_⟩
    · show frame.payload.length < UInt64.size
      rw [payload]
      omega
    · show layout.rest.length < UInt64.size
      omega

/-- What a run can tell of an event: its numbers fit, a frame is an inspection of some bytes, and
a close without a code has no reason. -/
def Event.Tellable : Event → Prop
  | initialState size frame | update size frame => size < UInt64.size ∧
      ∀ shown ∈ frame, ∃ data, data.length < UInt64.size ∧ shown = Inspection.ofBytes data
  | idleTimeout milliseconds => milliseconds < UInt64.size
  | serverClosed code reason =>
    (∀ number ∈ code, number < UInt16.size) ∧ (code = none → reason = "")
  | connected _ | waiting | disconnecting | stopped => True

theorem Event.fits_of_tellable {event : Event} (tellable : event.Tellable) : event.Fits := by
  cases event with
  | initialState size frame | update size frame =>
    refine ⟨tellable.1, fun shown present => ?_⟩
    obtain ⟨data, small, rfl⟩ := tellable.2 shown present
    exact Inspection.fits_ofBytes small
  | serverClosed => exact tellable.1
  | idleTimeout => exact tellable
  | connected | waiting | disconnecting | stopped => trivial

/-! ## Signals -/

namespace WebSocket

/-- The signal is one that fits in memory: a message is no longer than a message may be, and a close
code has 16 bits. -/
def Signal.Bounded : Signal → Prop
  | .message content => content.bytes.length ≤ Pieces.maxSize
  | .closed reason => ∀ close ∈ reason, close.code < UInt16.size
  | .piece | .ping _ | .pong _ | .failed _ => True

theorem bigEndian_two_lt (high low : UInt8) : bigEndian [high, low] < UInt16.size := by
  have top := high.toNat_lt
  have bottom := low.toNat_lt
  show (0 * 256 + high.toNat) * 256 + low.toNat < 65536
  omega

theorem code_lt_of_read {payload : Bytes} {reason : Option CloseReason}
    (reads : CloseReason.read payload = .ok reason) :
    ∀ close ∈ reason, close.code < UInt16.size := by
  unfold CloseReason.read at reads
  split at reads
  · cases reads
    exact nofun
  · cases reads
  · next high low text =>
    split at reads
    · cases reads
    · cases reads
      intro close present
      rw [← Option.some.inj present]
      split
      · exact bigEndian_two_lt high low
      · decide

theorem length_of_add {pieces more : Pieces} {data : Bytes} (adds : pieces.add data = .ok more) :
    more.data.length ≤ Pieces.maxSize := by
  unfold Pieces.add at adds
  simp only at adds
  split at adds
  · cases adds
  · next small =>
    split at adds
    · cases adds
    · cases adds
      exact Nat.le_of_not_lt small

theorem bytes_of_complete {pieces : Pieces} {message : Message}
    (completes : pieces.complete = .ok message) : message.bytes = pieces.data := by
  unfold Pieces.complete at completes
  split at completes
  · cases completes
    rfl
  · split at completes
    · next content decodes =>
      cases completes
      exact Utf8.encode_of_decode? decodes
    · cases completes

namespace Link

theorem bounded_of_takePiece {pieces : Pieces} {frame : WebSocket.Frame} {progress : Progress}
    (takes : takePiece pieces frame = .ok progress) : progress.2.Bounded := by
  obtain ⟨more, adds, takes⟩ := bind_eq_ok_iff.mp takes
  split at takes
  · obtain ⟨message, completes, takes⟩ := bind_eq_ok_iff.mp takes
    cases takes
    show message.bytes.length ≤ _
    rw [bytes_of_complete completes]
    exact length_of_add adds
  · cases takes
    trivial

theorem bounded_of_takeControl {frame : WebSocket.Frame} {signal : Signal}
    (takes : takeControl frame = .ok signal) : signal.Bounded := by
  unfold takeControl at takes
  split at takes
  · cases takes
  · split at takes
    · cases takes
    · split at takes
      · cases takes
        trivial
      · cases takes
        trivial
      · obtain ⟨reason, reads, takes⟩ := bind_eq_ok_iff.mp takes
        cases takes
        exact code_lt_of_read reads

theorem bounded_of_take {pieces : Option Pieces} {frame : WebSocket.Frame} {progress : Progress}
    (takes : take pieces frame = .ok progress) : progress.2.Bounded := by
  unfold take at takes
  split at takes
  · cases takes
  · split at takes
    · cases takes
    · split at takes
      · obtain ⟨signal, controls, takes⟩ := bind_eq_ok_iff.mp takes
        cases takes
        exact bounded_of_takeControl controls
      · split at takes
        · cases takes
        · exact bounded_of_takePiece takes
        · exact bounded_of_takePiece takes
        · cases takes

theorem bounded_of_readFrames (steps : Nat) (link : Link) :
    ∀ signal ∈ (readFrames steps link).1, signal.Bounded := by
  induction steps generalizing link with
  | zero => exact fun signal inside => absurd inside List.not_mem_nil
  | succ steps ih =>
    intro signal inside
    unfold readFrames at inside
    split at inside
    · exact absurd inside List.not_mem_nil
    · rw [List.mem_singleton.mp inside]
      trivial
    · split at inside
      · rw [List.mem_singleton.mp inside]
        trivial
      · next takes =>
        have bounded := bounded_of_take takes
        split at inside
        · rw [List.mem_singleton.mp inside]
          exact bounded
        · rcases List.mem_cons.mp inside with rfl | later
          · exact bounded
          · exact ih _ signal later

end Link

end WebSocket

/-! ## Incidents -/

def Incident.Bounded : Incident → Prop
  | .signal received => received.Bounded
  | .ended | .interrupted | .passed _ => True

/-- Whatever a network carries, what a run meets is bounded. -/
theorem Route.bounded_incidents (link : Link) (happenings : List Happening) :
    ∀ incident ∈ incidents link happenings, incident.Bounded := by
  induction happenings generalizing link with
  | nil => exact fun incident inside => absurd inside List.not_mem_nil
  | cons happening rest ih =>
    intro incident inside
    cases happening with
    | passed | interrupted =>
      rcases List.mem_cons.mp inside with rfl | later
      · trivial
      · exact ih link incident later
    | hungUp | broke =>
      rw [List.mem_singleton.mp inside]
      trivial
    | arrived bytes =>
      have bounded : ∀ signal ∈ (link.receive bytes).1, signal.Bounded :=
        Link.bounded_of_readFrames _ _
      rw [incidents] at inside
      split at inside
      · next signals after receives =>
        rw [receives] at bounded
        rcases List.mem_append.mp inside with now | later
        · obtain ⟨signal, among, rfl⟩ := List.mem_map.mp now
          exact bounded signal among
        · exact ih after incident later
      · next signals receives =>
        rw [receives] at bounded
        obtain ⟨signal, among, rfl⟩ := List.mem_map.mp inside
        exact bounded signal among

def Attempt.Bounded : Attempt → Prop
  | .connected incidents => ∀ incident ∈ incidents, incident.Bounded
  | .unanswered | .interrupted | .failed _ => True

theorem Route.bounded_answer (head : Bytes) (happenings : List Happening) :
    (answer head happenings).Bounded := by
  induction happenings generalizing head with
  | nil => trivial
  | cons happening rest ih =>
    cases happening with
    | interrupted | hungUp | broke => trivial
    | passed => exact ih head
    | arrived bytes =>
      unfold answer
      split
      · exact ih (head ++ bytes)
      · trivial
      · exact bounded_incidents _ _

theorem Route.bounded_attempt (route : Route) (endpoint : Url) :
    (route.attempt endpoint).Bounded := by
  unfold attempt
  split
  · trivial
  · trivial
  · exact bounded_answer _ _

/-! ## Runs -/

/-- The run tells only what it can tell, and the numbers of its report fit. -/
structure Course.Bounded (course : Course) : Prop where
  events : ∀ event ∈ course.events, event.Tellable
  report : ∀ report, course.outcome = .reported report → report.Fits

namespace Course

theorem bounded_tell {course : Course} {event : Event} (bounded : course.Bounded)
    (tellable : event.Tellable) : (course.tell event).Bounded := by
  refine ⟨fun other told => ?_, bounded.report⟩
  rcases List.mem_cons.mp told with rfl | told
  · exact tellable
  · exact bounded.events other told

theorem bounded_send {course : Course} (frame : Outgoing) (bounded : course.Bounded) :
    (course.send frame).Bounded :=
  ⟨bounded.events, bounded.report⟩

theorem bounded_finish {outcome : Outcome}
    (fits : ∀ report, outcome = .reported report → report.Fits) : (finish outcome).Bounded :=
  ⟨fun _ told => absurd told List.not_mem_nil, fits⟩

theorem bounded_failed (error : ProbeError) : (finish (.failed error)).Bounded :=
  bounded_finish fun _ reports => Outcome.noConfusion reports

theorem bounded_pending : (finish .pending).Bounded :=
  bounded_finish fun _ reports => Outcome.noConfusion reports

theorem bounded_reported {report : Report} (fits : report.Fits) :
    (finish (.reported report)).Bounded := by
  refine bounded_finish fun other reports => ?_
  cases reports
  exact fits

end Course

/-- The sizes so far fit. -/
structure Received.Fits (received : Received) : Prop where
  initial : received.initial < UInt64.size
  updates : ∀ size ∈ received.updates, size < UInt64.size

namespace Session

variable {session : Session}

theorem small_of_bounded {message : Message} (bounded : (Signal.message message).Bounded) :
    message.bytes.length < UInt64.size :=
  Nat.lt_of_le_of_lt bounded (by decide)

theorem tellable_inspection {message : Message} (bounded : (Signal.message message).Bounded) :
    ∀ shown ∈ session.inspection message,
      ∃ data, data.length < UInt64.size ∧ shown = Inspection.ofBytes data := by
  intro shown present
  unfold inspection at present
  split at present
  · exact ⟨message.bytes, small_of_bounded bounded, (Option.some.inj present).symm⟩
  · cases present

theorem tellable_farewell {ending : Ending} (fits : ending.Fits)
    (silent : ∀ reason, ending = .serverClosed none reason → reason = "") :
    (session.farewell ending).Tellable := by
  cases ending with
  | idleTimeout =>
    show session.toldTimeout < UInt64.size
    unfold toldTimeout
    split
    · assumption
    · decide
  | interrupted => trivial
  | serverClosed code reason => exact ⟨fits, fun none => silent reason (by rw [none])⟩

theorem bounded_conclude {received : Received} {ending : Ending} (sizes : received.Fits)
    (fits : ending.Fits) (silent : ∀ reason, ending = .serverClosed none reason → reason = "") :
    (session.conclude received ending).Bounded := by
  refine Course.bounded_tell (Course.bounded_reported ⟨?_, sizes.updates, fits⟩)
    (tellable_farewell fits silent)
  intro size present
  rw [← Option.some.inj present]
  exact sizes.initial

theorem bounded_ofClose {received : Received} {reason : Option CloseReason}
    (sizes : received.Fits) (bounded : (Signal.closed reason).Bounded) :
    (session.conclude received (.ofClose reason)).Bounded := by
  refine bounded_conclude sizes ?_ ?_
  · cases reason with
    | none => exact nofun
    | some reason =>
      intro number present
      rw [← Option.some.inj present]
      exact bounded reason rfl
  · cases reason with
    | none =>
      rintro reason same
      cases same
      rfl
    | some reason => exact nofun

theorem bounded_leave {received : Received} (sizes : received.Fits) :
    (session.leave received .idleTimeout).Bounded ∧
      (session.leave received .interrupted).Bounded :=
  ⟨Course.bounded_send _ (bounded_conclude sizes trivial nofun),
    Course.bounded_send _ (bounded_conclude sizes trivial nofun)⟩

theorem bounded_listen {received : Received} (quiet : Nat) {incidents : List Incident}
    (sizes : received.Fits) (bounded : ∀ incident ∈ incidents, incident.Bounded) :
    (session.listen received quiet incidents).Bounded := by
  induction incidents generalizing received quiet with
  | nil => exact (bounded_leave sizes).1
  | cons next rest ih =>
    have first : next.Bounded := bounded next List.mem_cons_self
    have later : ∀ incident ∈ rest, incident.Bounded :=
      fun incident inside => bounded incident (List.mem_cons_of_mem _ inside)
    cases next with
    | interrupted => exact (bounded_leave sizes).2
    | ended => exact bounded_ofClose sizes nofun
    | passed milliseconds =>
      unfold listen
      split
      · exact (bounded_leave sizes).1
      · exact ih _ sizes later
    | signal received' =>
      cases received' with
      | message message =>
        have small := small_of_bounded first
        refine Course.bounded_tell (ih 0 ⟨sizes.initial, fun size inside => ?_⟩ later)
          ⟨small, tellable_inspection first⟩
        rcases List.mem_append.mp inside with before | last
        · exact sizes.updates size before
        · rw [List.mem_singleton.mp last]
          exact small
      | ping data => exact Course.bounded_send _ (ih quiet sizes later)
      | pong | piece => exact ih quiet sizes later
      | closed reason => exact Course.bounded_send _ (bounded_ofClose sizes first)
      | failed error => exact Course.bounded_failed _

theorem bounded_stop : session.stop.Bounded :=
  Course.bounded_tell (Course.bounded_reported ⟨nofun, nofun, trivial⟩) trivial

theorem bounded_awaitState {incidents : List Incident}
    (bounded : ∀ incident ∈ incidents, incident.Bounded) :
    (session.awaitState incidents).Bounded := by
  induction incidents with
  | nil => exact Course.bounded_pending
  | cons next rest ih =>
    have first : next.Bounded := bounded next List.mem_cons_self
    have later : ∀ incident ∈ rest, incident.Bounded :=
      fun incident inside => bounded incident (List.mem_cons_of_mem _ inside)
    cases next with
    | interrupted => exact Course.bounded_send _ bounded_stop
    | ended => exact Course.bounded_failed _
    | passed => exact ih later
    | signal received =>
      cases received with
      | message message =>
        have small := small_of_bounded first
        exact Course.bounded_tell (Course.bounded_tell (bounded_listen 0 ⟨small, nofun⟩ later)
          trivial) ⟨small, tellable_inspection first⟩
      | ping data => exact Course.bounded_send _ (ih later)
      | pong | piece => exact ih later
      | closed reason => exact Course.bounded_send _ (Course.bounded_failed _)
      | failed error => exact Course.bounded_failed _

theorem bounded_run {attempt : Attempt} (bounded : attempt.Bounded) :
    (session.run attempt).Bounded := by
  cases attempt with
  | unanswered => exact Course.bounded_pending
  | interrupted => exact bounded_stop
  | failed error => exact Course.bounded_failed _
  | connected incidents => exact Course.bounded_tell (bounded_awaitState bounded) trivial

end Session

/-- Over any network, a run tells only what it can tell. -/
theorem Configuration.bounded_run (configuration : Configuration) (route : Route) :
    (configuration.run route).Bounded :=
  Session.bounded_run (route.bounded_attempt configuration.endpoint)

/-- Everything that a program writes has numbers that fit. -/
theorem Invocation.fits_of_mem_entries [Naming] {invocation : Invocation} {route : Route}
    {entry : Entry} (written : entry ∈ (invocation.run route).entries) : entry.Fits := by
  unfold run at written
  split at written
  · exact absurd written List.not_mem_nil
  · next configuration _ =>
    split at written
    · rw [List.mem_singleton.mp written]
      trivial
    · have bounded := configuration.bounded_run route
      rcases List.mem_append.mp written with told | last
      · obtain ⟨event, among, rfl⟩ := List.mem_map.mp told
        exact Event.fits_of_tellable (bounded.events event among)
      · cases outcome : (configuration.run route).outcome with
        | reported report =>
          rw [outcome] at last
          rw [List.mem_singleton.mp last]
          exact bounded.report report outcome
        | failed error =>
          rw [outcome] at last
          rw [List.mem_singleton.mp last]
          trivial
        | pending =>
          rw [outcome] at last
          exact absurd last List.not_mem_nil

end SyncProbe
