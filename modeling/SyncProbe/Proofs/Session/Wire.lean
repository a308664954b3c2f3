import SyncProbe.Program
import SyncProbe.Proofs.CommandLine.Values
import SyncProbe.Proofs.Session.Reading
import SyncProbe.Proofs.Session.Socket

/-!
# What the probe sends

Once it is connected, a run answers each ping that it reads, in order, and then sends one close
frame or none. `Closes` says which, for every way in which a run ends.

Results:
1. `closes_of_reads`: the close frame, against what the run comes to.
2. `ended_not_mem_incidents`: a server's bytes never end without a close frame or a failure.
3. `frames_sent`: what is sent in a run over any network, where replies are queued and only sent as
   the connection is read on.
-/

namespace SyncProbe

open WebSocket (CloseReason Link)

/-- `Closes finish outcome frames`: a run that ends so comes to the outcome, and sends the frames in
the end. -/
inductive Closes : Finish → Outcome → List Outgoing → Prop
  | idle {report : Report} :
      report.ending = .idleTimeout → Closes .idle (.reported report) [.close none]
  | interrupted {report : Report} :
      report.ending = .interrupted → Closes .interrupted (.reported report) [.close none]
  | answered {report : Report} {reason : Option CloseReason} :
      report.ending = .ofClose reason →
      Closes (.closed reason) (.reported report) [.close reason]
  | answeredEarly {reason : Option CloseReason} :
      Closes (.closed reason) (.failed .closedBeforeInitialState) [.close reason]
  | failed {error : WebSocket.Error} : Closes (.failed error) (.failed (.receive error)) []
  | never : Closes .never .pending []

namespace Session

variable {session : Session} {incidents : List Incident} {reading : Reading}

/-! ## The frames of a reading -/

theorem vanished_of_finish {next : Incident} (ends : next.finish? = some .vanished) :
    next = .ended := by
  cases next with
  | ended => rfl
  | interrupted | passed => cases ends
  | signal received => cases received <;> cases ends

/-- Signals only end without a close frame where the incidents say so. -/
theorem ended_mem_of_vanished (reads : session.Reads incidents reading)
    (vanished : reading.finish = .vanished) : .ended ∈ incidents := by
  cases reads with
  | waits | idles => cases vanished
  | early _ ends | late _ _ _ ends =>
    cases vanished
    rw [← vanished_of_finish ends]
    simp

theorem closes_early (session : Session) {finish : Finish} (someEnd : finish ≠ .vanished)
    (noTimeout : finish ≠ .idle) : Closes finish (finish.earlyOutcome session) finish.closing := by
  cases finish with
  | idle => exact absurd rfl noTimeout
  | interrupted => exact .interrupted rfl
  | closed => exact .answeredEarly
  | vanished => exact absurd rfl someEnd
  | failed => exact .failed
  | never => exact .never

theorem closes_late (session : Session) (received : Received) {finish : Finish}
    (someEnd : finish ≠ .vanished) :
    Closes finish (finish.lateOutcome session received) finish.closing := by
  cases finish with
  | idle => exact .idle rfl
  | interrupted => exact .interrupted rfl
  | closed => exact .answered rfl
  | vanished => exact absurd rfl someEnd
  | failed => exact .failed
  | never => exact .never

theorem finish_ne_idle {next : Incident} {finish : Finish} (ends : next.finish? = some finish) :
    finish ≠ .idle := by
  rintro rfl
  cases next with
  | interrupted | ended | passed => cases ends
  | signal received => cases received <;> cases ends

/-- The idle timeout runs out behind a message only. -/
theorem messages_of_idle (reads : session.Reads incidents reading)
    (idle : reading.finish = .idle) : reading.messages ≠ [] := by
  cases reads with
  | waits => cases idle
  | early _ ends => exact absurd idle (finish_ne_idle ends)
  | late _ arrives | idles _ arrives =>
    rw [Reading.messages, List.filterMap_append, List.filterMap_cons_some arrives]
    exact List.append_ne_nil_of_right_ne_nil _ (List.cons_ne_nil _ _)

theorem closes_of_reads (reads : session.Reads incidents reading)
    (someEnd : reading.finish ≠ .vanished) :
    Closes reading.finish (reading.course session).outcome reading.finish.closing := by
  rw [Reading.course]
  split
  · next none => exact closes_early session someEnd fun idle => messages_of_idle reads idle none
  · exact closes_late session _ someEnd

theorem sent_course (session : Session) (reading : Reading) :
    (reading.course session).sent = reading.frames := by
  rw [Reading.course]
  split <;> rfl

/-- The event of a close tells of the close frame that ended the run. -/
theorem ending_of_serverClosed {code : Option Nat} {text : String}
    (told : .serverClosed code text ∈ (reading.course session).events) :
    reading.finish.ending? = some (.serverClosed code text) := by
  rw [Reading.course] at told
  split at told
  · cases ends : reading.finish with
    | interrupted | idle | closed | vanished | failed | never =>
      simp [Finish.earlyEvents, ends] at told
  · have last : .serverClosed code text ∈ reading.finish.lateEvents session := by
      simpa [Reading.update] using told
    obtain ⟨ending, ends, tells⟩ := List.mem_map.mp last
    rw [Option.mem_toList.mp ends]
    cases ending with
    | idleTimeout | interrupted => cases tells
    | serverClosed =>
      cases tells
      rfl

theorem closed_of_serverClosed {code : Option Nat} {text : String}
    (someEnd : reading.finish ≠ .vanished)
    (told : .serverClosed code text ∈ (reading.course session).events) :
    ∃ reason, reading.finish = .closed reason ∧
      Ending.ofClose reason = .serverClosed code text := by
  have ending := ending_of_serverClosed told
  cases finish : reading.finish with
  | vanished => exact absurd finish someEnd
  | closed reason =>
    rw [finish] at ending
    exact ⟨reason, rfl, Option.some.inj ending⟩
  | idle | interrupted | failed | never =>
    rw [finish] at ending
    cases ending

end Session

/-! ## The bytes of a server -/

theorem ended_not_mem_incidents (link : Link) (happenings : List Happening) :
    .ended ∉ Route.incidents link happenings := by
  induction happenings generalizing link with
  | nil => exact List.not_mem_nil
  | cons happening rest ih =>
    cases happening with
    | hungUp | broke => simp [Route.incidents]
    | interrupted | passed => simp [Route.incidents, ih link]
    | arrived bytes =>
      rw [Route.incidents]
      split <;> simp [ih]

theorem ended_not_mem_of_answer {head : Bytes} {happenings : List Happening}
    {incidents : List Incident} (connected : Route.answer head happenings = .connected incidents) :
    .ended ∉ incidents := by
  induction happenings generalizing head with
  | nil => cases connected
  | cons happening rest ih =>
    cases happening with
    | interrupted | hungUp | broke => cases connected
    | passed => exact ih connected
    | arrived bytes =>
      rw [Route.answer] at connected
      split at connected
      · exact ih connected
      · cases connected
      · cases connected
        exact ended_not_mem_incidents _ _

/-- A connection that ends without a close frame is one that fails. -/
theorem ended_not_mem_of_attempt {route : Route} {endpoint : Url} {incidents : List Incident}
    (connected : route.attempt endpoint = .connected incidents) : .ended ∉ incidents := by
  unfold Route.attempt at connected
  split at connected
  · cases connected
  · cases connected
  · exact ended_not_mem_of_answer connected

/-- What is sent over any network, by a run that only sends replies as it reads on. Without a
connection it is nothing. With one, it is a pong for each ping that the run took up before its end,
and then what `Closes` says. A close of the server is told with the very reason that goes back. -/
theorem frames_sent (configuration : Configuration) (route : Route) :
    configuration.session.runOn (route.attempt configuration.endpoint) = configuration.run route ∧
    ((∀ incidents, route.attempt configuration.endpoint ≠ .connected incidents) →
      (configuration.run route).sent = []) ∧
    ∀ incidents, route.attempt configuration.endpoint = .connected incidents →
      ∃ reading closing, configuration.session.Reads incidents reading ∧
        (configuration.run route).sent = reading.pings.map .pong ++ closing ∧
        Closes reading.finish (configuration.run route).outcome closing ∧
        ∀ code text, .serverClosed code text ∈ (configuration.run route).events →
          ∃ reason, reading.finish = .closed reason ∧
            Ending.ofClose reason = .serverClosed code text := by
  refine ⟨Session.runOn_eq_run _ _, fun unconnected => ?_, fun incidents connected => ?_⟩
  · rw [Configuration.run]
    cases attempt : route.attempt configuration.endpoint with
    | connected incidents => exact absurd attempt (unconnected incidents)
    | unanswered | interrupted | failed => rfl
  · obtain ⟨reading, reads⟩ := Session.exists_reads configuration.session incidents
    have someEnd : reading.finish ≠ .vanished := fun vanished =>
      ended_not_mem_of_attempt connected (Session.ended_mem_of_vanished reads vanished)
    rw [Configuration.run, connected, Session.run_of_reads reads]
    refine ⟨reading, reading.finish.closing, reads, Session.sent_course _ reading,
      Session.closes_of_reads reads someEnd, fun code text told => ?_⟩
    exact Session.closed_of_serverClosed someEnd
      ((List.mem_cons.mp told).resolve_left Event.noConfusion)

/-- A server that sends a ping with a byte, a message, a ping with none, and a close frame with the
code 1000 and the reason `ok`. -/
def closingRoute : Route :=
  .carried [.arrived (Utf8.encode WebSocket.Upgrade.agreement ++ [0x89, 1, 7]),
    .arrived [0x82, 1, 0, 0x89, 0], .passed 10, .arrived [0x88, 4, 0x03, 0xE8, 0x6F, 0x6B]]

theorem frames_sent_closing :
    (∃ incidents, closingRoute.attempt CommandLine.loopback.endpoint = .connected incidents) ∧
    ∃ reading : Reading, reading.finish = .closed (some ⟨1000, "ok"⟩) ∧
      (CommandLine.loopback.run closingRoute).sent =
        reading.pings.map .pong ++ [.close (some ⟨1000, "ok"⟩)] ∧
      (CommandLine.loopback.run closingRoute).sent =
        [.pong [7], .pong [], .close (some ⟨1000, "ok"⟩)] := by
  have connected : closingRoute.attempt CommandLine.loopback.endpoint =
      .connected [.signal (.ping [7]), .signal (.message (.binary [0])), .signal (.ping []),
        .passed 10, .signal (.closed (some ⟨1000, "ok"⟩))] := by decide +kernel
  have told : .serverClosed (some 1000) "ok" ∈ (CommandLine.loopback.run closingRoute).events := by
    decide +kernel
  obtain ⟨reading, closing, reads, sent, closes, reasons⟩ :=
    (frames_sent CommandLine.loopback closingRoute).2.2 _ connected
  obtain ⟨reason, finish, tells⟩ := reasons _ _ told
  rw [finish] at closes
  generalize (CommandLine.loopback.run closingRoute).outcome = outcome at closes
  cases closes with
  | answered | answeredEarly =>
    cases reason with
    | none => cases tells
    | some reason =>
      obtain ⟨code, text⟩ := reason
      cases tells
      exact ⟨⟨_, connected⟩, reading, finish, sent, by decide +kernel⟩

end SyncProbe
