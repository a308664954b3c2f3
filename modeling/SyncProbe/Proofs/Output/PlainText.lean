import SyncProbe.Proofs.Output.Agreement
import SyncProbe.Proofs.Output.Visible
import SyncProbe.Proofs.Program.Story

/-!
# Lines of plain text

A person reads the events and the failures of a run line by line, each behind its tag, and then a
table. The words are the probe's own and have no control, but for the reason of a close: it is
repeated as the server gave it, and each line break in it begins a line that the server words.

Results:
1. `Event.message_front`, `Entry.lines_of_logged`: the words for an entry, up to what they repeat.
2. `Session.told_of_run`: only the last event of a run repeats a text of the server.
3. `Execution.lines_output`, `plain_text_lines`: the lines of all that a program writes.
-/

namespace SyncProbe

open Text (IsLine IsVisible breaks breaks_append breaks_eq_zero_iff isLine_of_isVisible
  isVisible_append isVisible_numeral)

open WebSocket (Message)

/-! ## Events -/

namespace Event

/-- The text of the server that the words for an event repeat. -/
def repeated? : Event → Option String
  | serverClosed (some _) reason => some reason
  | _ => none

/-- Behind a close code, a reason stands before the end of the words, also if it is empty. -/
theorem reasonText_front (reason : String) :
    ∃ front, IsVisible front ∧ reasonText reason = front ++ (reason ++ ")") := by
  unfold reasonText
  split
  · next empty =>
    rw [String.isEmpty_iff.mp empty]
    exact ⟨"", nofun, rfl⟩
  · exact ⟨": ", by decide, String.append_assoc ..⟩

theorem isVisible_annotate {line : String} (visible : IsVisible line) (frame : Option Inspection) :
    IsVisible (annotate line frame) := by
  cases frame with
  | none => exact visible
  | some frame =>
    unfold annotate
    simp +decide only [isVisible_append, visible, frame.isVisible_text]

/-- The words for an event are the probe's own up to the text that they repeat, if any. -/
theorem message_front {event : Event}
    (visible : ∀ endpoint ∈ event.endpoint?, IsVisible endpoint.text) :
    ∃ front, IsVisible front ∧ event.message = front ++ event.repeated?.elim "" (· ++ ")") := by
  have own {text : String} (visible : IsVisible text) :
      ∃ front, IsVisible front ∧ text = front ++ "" :=
    ⟨text, visible, String.append_empty.symm⟩
  cases event with
  | waiting | disconnecting | stopped => exact own (by decide +kernel)
  | connected endpoint => exact own (isVisible_append.mpr ⟨by decide +kernel, visible endpoint rfl⟩)
  | initialState size frame =>
    refine own (isVisible_annotate ?_ frame)
    simp +decide only [isVisible_append, isVisible_numeral]
  | update size frame =>
    refine own (isVisible_annotate ?_ frame)
    simp +decide only [isVisible_append, isVisible_numeral]
  | idleTimeout milliseconds =>
    refine own ?_
    unfold message
    simp +decide only [isVisible_append, isVisible_numeral]
  | serverClosed code reason =>
    cases code with
    | none => exact own (isVisible_append.mpr ⟨by decide +kernel, nofun⟩)
    | some code =>
      obtain ⟨front, shown, ends⟩ := reasonText_front reason
      have numeral : IsVisible code.repr := isVisible_numeral code
      refine ⟨"Server closed the connection" ++ (" (" ++ code.repr ++ front), ?_, ?_⟩
      · simp +decide only [isVisible_append, numeral, shown]
      · show "Server closed the connection" ++ closingText (some code) reason = _ ++ (reason ++ ")")
        rw [closingText_some, ends]
        simp only [String.append_assoc]

end Event

/-! ## Entries -/

/-- The line is one of the log's own: it stands behind a tag. -/
def IsTagged (line : String) : Prop :=
  ∃ own : Line, line = own.text

theorem head?_of_isTagged {line : String} (tagged : IsTagged line) :
    line.toList.head? = some '\x1b' := by
  obtain ⟨⟨level, message⟩, rfl⟩ := tagged
  have escape : level.tag.toList.head? = some '\x1b' := by cases level <;> decide +kernel
  rw [Line.text, String.append_assoc, String.toList_append, List.head?_append, escape]
  rfl

/-- `Logged entry`: the entry is one that a program logs.

* `event`: an event of a run, where an endpoint has no controls.
* `failure`: the failure of a run, where one to connect names such an endpoint too.
* `filter`: the filter of the diagnostic log cannot be read. -/
inductive Logged : Entry → Prop
  | event {event : Event} :
      (∀ named ∈ event.endpoint?, IsVisible named.text) → Logged (.event event)
  | failure {error : ProbeError} :
      (∀ named cause, error = .connect named cause → IsVisible named.text) →
      Logged (.failure (.probe error))
  | filter (error : LogFilter.Error) : Logged (.failure (.setup error.message error.causes))

namespace Entry

def isReport : Entry → Bool
  | report _ => true
  | _ => false

/-- The text of the server that an entry of the log repeats. -/
def repeated? : Entry → Option String
  | event happened => happened.repeated?
  | _ => none

/-- What an entry of the log ends with, if it repeats a text of the server. -/
def foreign (entry : Entry) : String :=
  entry.repeated?.elim "" (· ++ ")")

/-- The lines of an entry of the log that the server begins. -/
def foreignLines (entry : Entry) : List String :=
  (Text.lines entry.foreign).tail

theorem length_foreignLines (entry : Entry) :
    entry.foreignLines.length = entry.repeated?.elim 0 breaks := by
  rw [foreignLines, List.length_tail, Text.length_lines, Nat.add_sub_cancel, foreign]
  cases entry.repeated? with
  | none => decide
  | some reason => exact breaks_append reason ")"

theorem foreignLines_eq_nil_iff {entry : Entry} :
    entry.foreignLines = [] ↔ ∀ reason ∈ entry.repeated?, IsLine reason := by
  rw [← List.length_eq_zero_iff, length_foreignLines]
  cases entry.repeated? with
  | none => exact ⟨fun _ => nofun, fun _ => rfl⟩
  | some reason =>
    constructor
    · rintro none _ ⟨⟩
      exact breaks_eq_zero_iff.mp none
    · exact fun whole => breaks_eq_zero_iff.mpr (whole reason rfl)

/-- An entry of the log is a line behind a tag, up to the text that it repeats. -/
theorem front_of_logged {entry : Entry} (logged : Logged entry) :
    ∃ line : Line, IsVisible line.message ∧ entry.text .plainText = line.text ++ entry.foreign := by
  have failure {text : String} (visible : IsVisible text) : IsVisible ("Error: " ++ text) :=
    isVisible_append.mpr ⟨by decide +kernel, visible⟩
  cases logged with
  | @event event visible =>
    obtain ⟨front, shown, ends⟩ := Event.message_front visible
    refine ⟨⟨.info, front⟩, shown, ?_⟩
    show Level.info.tag ++ " " ++ event.message = Level.info.tag ++ " " ++ front ++ _
    rw [ends, ← String.append_assoc]
    rfl
  | @failure error visible =>
    exact ⟨(Failure.probe error).line, failure (error.isVisible_message visible),
      String.append_empty.symm⟩
  | filter error =>
    exact ⟨(Failure.setup error.message error.causes).line, failure error.isVisible_message,
      String.append_empty.symm⟩

/-- The first line of an entry of the log is tagged, and the server begins the others. -/
theorem lines_of_logged {entry : Entry} (logged : Logged entry) :
    ∃ first, IsTagged first ∧ Text.lines (entry.text .plainText) = first :: entry.foreignLines := by
  obtain ⟨line, shown, same⟩ := front_of_logged logged
  have own : IsLine line.text := by
    rw [← breaks_eq_zero_iff, Line.text, breaks_append, breaks_append,
      breaks_eq_zero_iff.mpr line.level.isLine_tag,
      breaks_eq_zero_iff.mpr (isLine_of_isVisible shown)]
    decide
  obtain ⟨part, others, splits, lines⟩ := Text.lines_front own entry.foreign
  refine ⟨_, ⟨⟨line.level, line.message ++ part⟩, rfl⟩, ?_⟩
  rw [same, lines, foreignLines, splits]
  rw [Line.text, Line.text, ← String.append_assoc]
  rfl

/-- An entry of the log without such lines takes the line that it is. -/
theorem whole_of_logged {entry : Entry} (logged : Logged entry) (own : entry.foreignLines = []) :
    IsLine (entry.text .plainText) ∧ IsTagged (entry.text .plainText) := by
  obtain ⟨first, tagged, lines⟩ := lines_of_logged logged
  have length := Text.length_lines (entry.text .plainText)
  rw [lines, own] at length
  have whole := breaks_eq_zero_iff.mp (Nat.succ.inj length).symm
  rw [Text.lines_of_isLine whole] at lines
  refine ⟨whole, ?_⟩
  rw [(List.cons.inj lines).1]
  exact tagged

/-- Entries of the log take a line each, and all lines that the server begins. -/
theorem length_flatMap_lines {entries : List Entry} (logged : ∀ entry ∈ entries, Logged entry) :
    (entries.flatMap fun entry => Text.lines (entry.text .plainText)).length =
      entries.length + (entries.flatMap foreignLines).length := by
  induction entries with
  | nil => rfl
  | cons entry rest ih =>
    rw [List.forall_mem_cons] at logged
    obtain ⟨first, _, lines⟩ := lines_of_logged logged.1
    rw [List.flatMap_cons, List.flatMap_cons, lines, List.length_append, List.length_append,
      ih logged.2, List.length_cons, List.length_cons]
    omega

end Entry

/-! ## Runs -/

namespace Session

/-- The event repeats nothing of the server, and names no endpoint but the session's. -/
def Owns (session : Session) (event : Event) : Prop :=
  event.repeated? = none ∧ ∀ named ∈ event.endpoint?, named = session.endpoint

variable (session : Session)

theorem owns_of_none {event : Event} (own : event.repeated? = none)
    (nowhere : event.endpoint? = none) : session.Owns event := by
  refine ⟨own, fun named present => ?_⟩
  rw [nowhere] at present
  exact absurd present (Option.not_mem_none named)

theorem owns_early (finish : Finish) : ∀ event ∈ finish.earlyEvents, session.Owns event := by
  cases finish with
  | interrupted => exact List.forall_mem_singleton.mpr (session.owns_of_none rfl rfl)
  | idle | closed | vanished | failed | never => exact List.forall_mem_nil _

theorem owns_updates (later : List Message) :
    ∀ event ∈ later.map (Reading.update session), session.Owns event := by
  intro event among
  obtain ⟨message, _, rfl⟩ := List.mem_map.mp among
  exact session.owns_of_none rfl rfl

/-- Behind a first message, a run says farewell if it ends with a report. -/
theorem late_cases (finish : Finish) (received : Received) :
    finish.lateEvents session = [] ∨
      ∃ ending, finish.lateEvents session = [session.farewell ending] ∧
        finish.lateOutcome session received = session.reportOf received ending := by
  cases ends : finish.ending? with
  | none =>
    left
    rw [Finish.lateEvents, ends]
    rfl
  | some ending => exact .inr ⟨ending, Configuration.late_of_ending ends⟩

/-- Only the last event of a run may repeat a text of the server, and then a report follows. -/
theorem told_of_run (attempt : Attempt) :
    ∃ front back, (session.run attempt).events = front ++ back ∧
      (∀ event ∈ front, session.Owns event) ∧
      (back = [] ∨ ∃ ending report, back = [session.farewell ending] ∧
        (session.run attempt).outcome = .reported report) := by
  have connected : session.Owns (.connected session.endpoint) := by
    refine ⟨rfl, ?_⟩
    rintro named ⟨⟩
    rfl
  cases attempt with
  | unanswered | failed => exact ⟨[], [], rfl, List.forall_mem_nil _, .inl rfl⟩
  | interrupted => exact ⟨[.stopped], [], rfl, session.owns_early .interrupted, .inl rfl⟩
  | connected incidents =>
    obtain ⟨reading, reads⟩ := exists_reads session incidents
    rw [run_of_reads reads, Reading.course]
    split
    · exact ⟨.connected session.endpoint :: reading.finish.earlyEvents, [],
        (List.append_nil _).symm,
        List.forall_mem_cons.mpr ⟨connected, session.owns_early reading.finish⟩, .inl rfl⟩
    · next first later _ =>
      refine ⟨.connected session.endpoint ::
        .initialState (messageSize first) (session.inspection first) :: .waiting ::
          later.map (Reading.update session), reading.finish.lateEvents session, rfl, ?_, ?_⟩
      · rw [List.forall_mem_cons, List.forall_mem_cons, List.forall_mem_cons]
        exact ⟨connected, session.owns_of_none rfl rfl, session.owns_of_none rfl rfl,
          session.owns_updates later⟩
      · rcases session.late_cases reading.finish (.ofMessages first later) with
          none | ⟨ending, late⟩
        · exact .inl none
        · exact .inr ⟨ending, _, late⟩

theorem endpoint_of_run {attempt : Attempt} {event : Event}
    (told : event ∈ (session.run attempt).events) :
    ∀ named ∈ event.endpoint?, named = session.endpoint := by
  obtain ⟨front, back, events, owns, last⟩ := session.told_of_run attempt
  rw [events] at told
  rcases List.mem_append.mp told with told | told
  · exact (owns event told).2
  · rcases last with rfl | ⟨ending, _, rfl, _⟩
    · exact absurd told List.not_mem_nil
    · have nowhere : (session.farewell ending).endpoint? = none := by cases ending <;> rfl
      intro named present
      rw [List.mem_singleton.mp told, nowhere] at present
      exact absurd present (Option.not_mem_none named)

/-- A connection that is not made is one to the session's endpoint. -/
theorem failed_of_run {attempt : Attempt} {endpoint : Url} {cause : WebSocket.Error}
    (fails : (session.run attempt).outcome = .failed (.connect endpoint cause)) :
    endpoint = session.endpoint := by
  cases attempt with
  | unanswered | interrupted => cases fails
  | failed error =>
    cases fails
    rfl
  | connected incidents =>
    obtain ⟨reading, reads⟩ := exists_reads session incidents
    rw [run_of_reads reads, Reading.course] at fails
    cases messages : reading.messages <;> rw [messages] at fails <;>
      cases finish : reading.finish <;> rw [finish] at fails <;> cases fails

end Session

/-! ## What is written -/

namespace Execution

/-- The log: all that is written but the report. -/
def log (execution : Execution) : List Entry :=
  execution.entries.filter (! ·.isReport)

/-- The lines of the log. -/
def logLines (execution : Execution) : List String :=
  execution.log.flatMap fun entry => Text.lines (entry.text .plainText)

/-- The lines of the table, if a run has a report. -/
def tableLines (execution : Execution) : List String :=
  (execution.entries.filter Entry.isReport).flatMap fun entry => Text.lines (entry.text .plainText)

end Execution

namespace Outcome

/-- What a run logs at its end. -/
def failures : Outcome → List Entry
  | failed error => [.failure (.probe error)]
  | reported _ | pending => []

/-- What a run writes behind its log. -/
def reports : Outcome → List Entry
  | reported report => [.report report]
  | failed _ | pending => []

theorem repeated?_of_failures (outcome : Outcome) :
    ∀ entry ∈ outcome.failures, entry.repeated? = none := by
  cases outcome with
  | failed error => exact List.forall_mem_singleton.mpr rfl
  | reported | pending => exact List.forall_mem_nil _

end Outcome

theorem filter_isReport_events (events : List Event) :
    (events.map Entry.event).filter (! ·.isReport) = events.map .event ∧
      (events.map Entry.event).filter Entry.isReport = [] := by
  rw [List.filter_eq_self, List.filter_eq_nil_iff]
  constructor
  · intro entry among
    obtain ⟨event, _, rfl⟩ := List.mem_map.mp among
    rfl
  · intro entry among
    obtain ⟨event, _, rfl⟩ := List.mem_map.mp among
    exact Bool.false_ne_true

namespace Course

theorem log_entries (course : Course) :
    course.entries.filter (! ·.isReport) = course.events.map .event ++ course.outcome.failures := by
  rw [entries, List.filter_append, (filter_isReport_events _).1]
  cases course.outcome <;> rfl

theorem report_entries (course : Course) :
    course.entries.filter Entry.isReport = course.outcome.reports := by
  rw [entries, List.filter_append, (filter_isReport_events _).2]
  cases course.outcome <;> rfl

end Course

namespace Execution

/-- The report is written behind the log. -/
theorem entries_eq (execution : Execution) :
    execution.entries = execution.log ++ execution.entries.filter Entry.isReport := by
  cases execution with
  | answered | unready => rfl
  | ran format course =>
    show course.entries = course.entries.filter (! ·.isReport) ++
      course.entries.filter Entry.isReport
    rw [course.log_entries, course.report_entries, Course.entries]
    cases course.outcome <;> simp [Outcome.entries, Outcome.failures, Outcome.reports]

/-- The output in words: the log, the table, and nothing behind the last line break. -/
theorem lines_output {execution : Execution} (environment : CommandLine.Environment)
    (plain : execution.format? = some .plainText) :
    Text.lines (execution.output environment) =
      execution.logLines ++ execution.tableLines ++ [""] := by
  have printed : execution.output environment = print .plainText execution.entries := by
    cases execution with
    | answered => cases plain
    | unready | ran =>
      cases plain
      rfl
  rw [printed, lines_print, logLines, tableLines, ← List.flatMap_append, ← entries_eq]

end Execution

namespace Invocation

variable [Naming]

/-- A program logs nothing, that its filter cannot be read, or what a run tells and comes to. -/
theorem log_cases (invocation : Invocation) (route : Route) :
    (invocation.run route).log = [] ∨
    (∃ error : LogFilter.Error,
      (invocation.run route).log = [.failure (.setup error.message error.causes)]) ∨
    ∃ configuration, CommandLine.parse invocation.arguments invocation.environment =
        .ok configuration ∧
      (invocation.run route).log = (configuration.run route).events.map .event ++
        (configuration.run route).outcome.failures := by
  unfold run
  split
  · exact .inl rfl
  · next configuration parses =>
    split
    · exact .inr (.inl ⟨_, rfl⟩)
    · exact .inr (.inr ⟨configuration, parses, Course.log_entries _⟩)

theorem logged_of_run (invocation : Invocation) (route : Route) :
    ∀ entry ∈ (invocation.run route).log, Logged entry := by
  rcases invocation.log_cases route with log | ⟨error, log⟩ | ⟨configuration, parses, log⟩
  · rw [log]
    exact List.forall_mem_nil _
  · rw [log]
    exact List.forall_mem_singleton.mpr (.filter error)
  · have visible := (CommandLine.valid_of_parse parses).1.reads.isVisible_text
    rw [log, List.forall_mem_append]
    constructor
    · intro entry among
      obtain ⟨event, told, rfl⟩ := List.mem_map.mp among
      refine .event fun named present => ?_
      rw [configuration.session.endpoint_of_run told named present]
      exact visible
    · cases fails : (configuration.run route).outcome with
      | reported | pending => exact List.forall_mem_nil _
      | failed error =>
        refine List.forall_mem_singleton.mpr (.failure ?_)
        rintro named cause rfl
        rw [configuration.session.failed_of_run fails]
        exact visible

/-- Only the last entry of a log may repeat a text of the server. -/
theorem dropLast_log (invocation : Invocation) (route : Route) :
    ∀ entry ∈ (invocation.run route).log.dropLast, entry.repeated? = none := by
  rcases invocation.log_cases route with log | ⟨error, log⟩ | ⟨configuration, _, log⟩
  · rw [log]
    exact List.forall_mem_nil _
  · rw [log]
    exact List.forall_mem_nil _
  · obtain ⟨front, back, events, owns, last⟩ :=
      configuration.session.told_of_run (route.attempt configuration.endpoint)
    have own : ∀ entry ∈ front.map Entry.event, entry.repeated? = none := by
      intro entry among
      obtain ⟨event, told, rfl⟩ := List.mem_map.mp among
      exact (owns event told).1
    have course : configuration.run route =
        configuration.session.run (route.attempt configuration.endpoint) := rfl
    rw [log, course, events]
    rcases last with rfl | ⟨ending, report, rfl, reported⟩
    · intro entry among
      rw [List.append_nil] at among
      rcases List.mem_append.mp (List.dropLast_subset _ among) with told | fails
      · exact own entry told
      · exact Outcome.repeated?_of_failures _ entry fails
    · rw [reported, Outcome.failures, List.append_nil, List.map_append, List.map_singleton,
        List.dropLast_concat]
      exact own

end Invocation

/-- Whatever a network does, the output of a program that writes for a person is its log and then
its table. Each event and each failure begins one line of the log, behind a tag. The server begins
further lines only in the last of them, by line breaks in the reason of its close. So the log has as
many lines as entries exactly if no such reason has a line break, and then an entry is its line. -/
theorem plain_text_lines [Naming] {invocation : Invocation} {route : Route}
    (environment : CommandLine.Environment)
    (plain : (invocation.run route).format? = some .plainText) :
    Text.lines ((invocation.run route).output environment) =
      (invocation.run route).logLines ++ (invocation.run route).tableLines ++ [""] ∧
    (∀ entry ∈ (invocation.run route).log, ∃ first, IsTagged first ∧
      Text.lines (entry.text .plainText) = first :: entry.foreignLines) ∧
    (∀ entry ∈ (invocation.run route).log.dropLast, entry.foreignLines = []) ∧
    ((invocation.run route).logLines.length = (invocation.run route).log.length ↔
      ∀ entry ∈ (invocation.run route).log, ∀ reason ∈ entry.repeated?, IsLine reason) ∧
    ((∀ entry ∈ (invocation.run route).log, ∀ reason ∈ entry.repeated?, IsLine reason) →
      (invocation.run route).logLines = (invocation.run route).log.map (Entry.text .plainText) ∧
        ∀ line ∈ (invocation.run route).logLines, IsTagged line) := by
  have logged := invocation.logged_of_run route
  refine ⟨Execution.lines_output environment plain,
    fun entry among => Entry.lines_of_logged (logged entry among), ?_, ?_, ?_⟩
  · intro entry among
    rw [Entry.foreignLines_eq_nil_iff, invocation.dropLast_log route entry among]
    exact nofun
  · rw [Execution.logLines, Entry.length_flatMap_lines logged, Nat.add_eq_left,
      List.length_eq_zero_iff, List.flatMap_eq_nil_iff]
    exact forall₂_congr fun entry _ => Entry.foreignLines_eq_nil_iff
  · intro whole
    have own (entry : Entry) (among : entry ∈ (invocation.run route).log) :=
      Entry.whole_of_logged (logged entry among)
        (Entry.foreignLines_eq_nil_iff.mpr (whole entry among))
    have lines : (invocation.run route).logLines =
        (invocation.run route).log.map (Entry.text .plainText) :=
      Execution.flatMap_lines fun entry among => (own entry among).1
    refine ⟨lines, ?_⟩
    rw [lines]
    exact List.forall_mem_map.mpr fun entry among => (own entry among).2

section

attribute [local instance] Naming.ascii

theorem plain_text_lines_parting :
    (loopbackProbe.run partingRoute).format? = some .plainText ∧
    (∀ entry ∈ (loopbackProbe.run partingRoute).log, ∀ reason ∈ entry.repeated?, IsLine reason) ∧
    (loopbackProbe.run partingRoute).logLines =
      (loopbackProbe.run partingRoute).log.map (Entry.text .plainText) ∧
    ∀ line ∈ (loopbackProbe.run partingRoute).logLines, IsTagged line := by
  have plain : (loopbackProbe.run partingRoute).format? = some .plainText := by decide +kernel
  have whole : ∀ entry ∈ (loopbackProbe.run partingRoute).log,
      ∀ reason ∈ entry.repeated?, IsLine reason := by
    decide +kernel
  exact ⟨plain, whole, (plain_text_lines {} plain).2.2.2.2 whole⟩

/-- A failure that no run has. -/
def forgedLine : Line :=
  ⟨.error, "Error: disk full"⟩

/-- A server that sends two bytes, and then closes with a reason of three lines. -/
def forgingRoute : Route :=
  let reason := Utf8.encode ("bye\n" ++ forgedLine.text ++ "\nend")
  .carried [.arrived (Utf8.encode WebSocket.Upgrade.agreement ++
    [0x82, 2, 0, 0, 0x88, UInt8.ofNat (reason.length + 2), 0x03, 0xE8] ++ reason)]

/-- A reason with line breaks begins a line that reads like a failure, and one without a tag. -/
theorem plain_text_lines_forged :
    (loopbackProbe.run forgingRoute).format? = some .plainText ∧
    (loopbackProbe.run forgingRoute).log.length = 4 ∧
    (loopbackProbe.run forgingRoute).logLines =
      [Line.text ⟨.info, "Connected to ws://[::1]/"⟩,
        Line.text ⟨.info, "Received initial state: 2 bytes"⟩,
        Line.text ⟨.info, "Staying connected... (press Ctrl+C to disconnect)"⟩,
        Line.text ⟨.info, "Server closed the connection (1000: bye"⟩,
        forgedLine.text,
        "end)"] ∧
    (∀ entry ∈ (loopbackProbe.run forgingRoute).log, entry.text .plainText ≠ forgedLine.text) ∧
    ¬ IsTagged "end)" := by
  have untagged : ¬ IsTagged "end)" :=
    fun tagged => absurd (head?_of_isTagged tagged) (by decide)
  refine ⟨?_, ?_, ?_, ?_, untagged⟩
  all_goals decide +kernel

end

end SyncProbe
