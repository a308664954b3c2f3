import SyncProbe.Program
import SyncProbe.Proofs.CommandLine.Values
import SyncProbe.Proofs.Session.Reading

/-!
# What a run does with contents

A run may show what messages hold, and that is all it does with it. To say so, contents are taken
away. `blank` leaves the size of a message, and `bare` leaves of an event all but what it shows. A
run that is bared afterwards is the run without inspection of blank messages, so two runs with blank
messages in common differ in nothing else than what they show.

Results:
1. `toJson_bare`, `message_bare`: how a bare event is printed.
2. `bare_run`: to take contents away before a run or after it comes to the same.
3. `contents_of_reads`: what a run shows, it shows of the messages that it took up.
4. `contents_only_shown`: any two runs that differ in contents, with or without inspection.
-/

namespace SyncProbe

open WebSocket (Message)

/-! ## Contents of events -/

/-- The value without its member of a name, if it is an object. -/
def Json.without (name : String) : Json → Json
  | .object members => .object (members.filter fun member => member.1 ≠ name)
  | json => json

namespace Event

/-- The size that an event tells of a message, and what it shows of the contents. -/
def content? : Event → Option (Nat × Option Inspection)
  | initialState size frame | update size frame => some (size, frame)
  | _ => none

/-- The event with nothing shown of any contents. -/
def bare : Event → Event
  | initialState size _ => initialState size none
  | update size _ => update size none
  | event => event

/-- For a program, a bare event has no member for a frame. -/
theorem toJson_bare (event : Event) : event.bare.toJson = event.toJson.without "frame" := by
  cases event with
  | initialState size frame | update size frame => cases frame <;> rfl
  | connected | waiting | idleTimeout | disconnecting | serverClosed | stopped => rfl

/-- For a person, a bare event has no annotation. -/
theorem message_bare (event : Event) :
    event.message = annotate event.bare.message (event.content?.bind Prod.snd) := by
  cases event <;> rfl

end Event

namespace Course

/-- The course with nothing shown of any contents. -/
def bare (course : Course) : Course :=
  { course with events := course.events.map Event.bare }

/-- What the events tell of messages. -/
def contents (course : Course) : List (Nat × Option Inspection) :=
  course.events.filterMap Event.content?

/-- Two courses do the same and tell the same, but for what they show of contents. -/
structure SameButShown (course course' : Course) : Prop where
  outcome : course.outcome = course'.outcome
  exitCode : course.outcome.exitCode = course'.outcome.exitCode
  sent : course.sent = course'.sent
  /-- As they are printed for a program, without the members of contents. -/
  json : (course.events.map fun event => event.toJson.without "frame") =
    course'.events.map fun event => event.toJson.without "frame"
  /-- As they are printed for a person, without the annotations. -/
  text : (course.events.map fun event => event.bare.message) =
    course'.events.map fun event => event.bare.message

/-- The course tells of the messages in order. It shows the inspection of each one, if that was
asked for, and no contents otherwise. Where something is shown, it is what annotates the text. -/
structure Shows (inspect : Bool) (messages : List Message) (course : Course) : Prop where
  contents : course.contents = messages.map fun message =>
    (message.bytes.length, if inspect then some (Inspection.ofBytes message.bytes) else none)
  annotated : ∀ event ∈ course.events,
    event.message = Event.annotate event.bare.message (event.content?.bind Prod.snd)

theorem sameButShown_of_bare {course course' : Course} (same : course.bare = course'.bare) :
    course.SameButShown course' := by
  have outcome := congrArg Course.outcome same
  have sent := congrArg Course.sent same
  have events := congrArg Course.events same
  have json := congrArg (List.map Event.toJson) events
  have text := congrArg (List.map Event.message) events
  simp only [bare, List.map_map, Function.comp_def] at text
  simp only [bare, List.map_map, Function.comp_def, Event.toJson_bare] at json
  exact ⟨outcome, congrArg Outcome.exitCode outcome, sent, json, text⟩

theorem bare_tell (course : Course) (event : Event) :
    (course.tell event).bare = course.bare.tell event.bare := rfl

end Course

/-! ## Contents of messages -/

/-- A message of the same size that holds zeros. -/
def blankMessage (message : Message) : Message :=
  .binary (List.replicate message.bytes.length 0)

@[simp] theorem length_blankMessage (message : Message) :
    (blankMessage message).bytes.length = message.bytes.length :=
  List.length_replicate

namespace Incident

def blank : Incident → Incident
  | .signal (.message message) => .signal (.message (blankMessage message))
  | incident => incident

/-- The incidents are the same, or messages of one size. -/
inductive Alike : Incident → Incident → Prop
  | same (incident : Incident) : Alike incident incident
  | message {message message' : Message} : message.bytes.length = message'.bytes.length →
      Alike (.signal (.message message)) (.signal (.message message'))

theorem blank_eq_of_alike {incident incident' : Incident} (alike : Alike incident incident') :
    incident.blank = incident'.blank := by
  cases alike with
  | same => rfl
  | message size => rw [blank, blank, blankMessage, blankMessage, size]

end Incident

namespace Attempt

def blank : Attempt → Attempt
  | .connected incidents => .connected (incidents.map Incident.blank)
  | attempt => attempt

/-- The attempts are the same, or meet alike incidents one by one. -/
inductive Alike : Attempt → Attempt → Prop
  | same (attempt : Attempt) : Alike attempt attempt
  | connected {incidents incidents' : List Incident} :
      List.Forall₂ Incident.Alike incidents incidents' →
      Alike (.connected incidents) (.connected incidents')

theorem blank_eq_of_alike {attempt attempt' : Attempt} (alike : Alike attempt attempt') :
    attempt.blank = attempt'.blank := by
  cases alike with
  | same => rfl
  | connected alike =>
    refine congrArg Attempt.connected ?_
    induction alike with
    | nil => rfl
    | cons first _ ih => exact congrArg₂ List.cons (Incident.blank_eq_of_alike first) ih

end Attempt

/-! ## Taking contents away -/

namespace Session

/-- The session without inspection. -/
def blind (session : Session) : Session :=
  { session with inspect := false }

variable {session : Session}

theorem bare_listen (received : Received) (quiet : Nat) (incidents : List Incident) :
    (session.listen received quiet incidents).bare =
      session.blind.listen received quiet (incidents.map Incident.blank) := by
  induction incidents generalizing received quiet with
  | nil => rfl
  | cons next rest ih =>
    cases next with
    | interrupted | ended => rfl
    | passed milliseconds =>
      have onward : (Incident.passed milliseconds :: rest).map Incident.blank =
        .passed milliseconds :: rest.map Incident.blank := rfl
      rw [onward, listen, listen]
      by_cases overdue : session.idleTimeout ≤ quiet + milliseconds
      · have overdue' : session.blind.idleTimeout ≤ quiet + milliseconds := overdue
        rw [if_pos overdue, if_pos overdue']
        rfl
      · have inTime : ¬ session.blind.idleTimeout ≤ quiet + milliseconds := overdue
        rw [if_neg overdue, if_neg inTime, ih]
    | signal received' =>
      cases received' with
      | message message =>
        rw [List.map_cons, Incident.blank, listen, listen, Course.bare_tell, ih,
          length_blankMessage]
        rfl
      | ping => exact congrArg (Course.send _) (ih received quiet)
      | pong | piece => exact ih received quiet
      | closed reason => cases reason <;> rfl
      | failed => rfl

theorem bare_awaitState (incidents : List Incident) :
    (session.awaitState incidents).bare =
      session.blind.awaitState (incidents.map Incident.blank) := by
  induction incidents with
  | nil => rfl
  | cons next rest ih =>
    cases next with
    | interrupted | ended => rfl
    | passed => exact ih
    | signal received =>
      cases received with
      | message message =>
        rw [List.map_cons, Incident.blank, awaitState, awaitState, Course.bare_tell,
          Course.bare_tell, bare_listen, length_blankMessage]
        rfl
      | ping => exact congrArg (Course.send _) ih
      | pong | piece => exact ih
      | closed | failed => rfl

/-- To take contents away before a run or after it comes to the same. -/
theorem bare_run (attempt : Attempt) :
    (session.run attempt).bare = session.blind.run attempt.blank := by
  cases attempt with
  | unanswered | interrupted | failed => rfl
  | connected incidents => exact congrArg (Course.tell _) (bare_awaitState incidents)

/-! ## Showing contents -/

theorem contents_of_finish (session : Session) (finish : Finish) :
    finish.earlyEvents.filterMap Event.content? = [] ∧
      (finish.lateEvents session).filterMap Event.content? = [] := by
  constructor
  · cases finish <;> rfl
  · rw [Finish.lateEvents]
    cases finish.ending? with
    | none => rfl
    | some ending => cases ending <;> rfl

/-- What a run shows, it shows of the messages that it took up. -/
theorem contents_of_reads {incidents : List Incident} {reading : Reading}
    (reads : session.Reads incidents reading) :
    (session.run (.connected incidents)).contents = reading.messages.map session.content := by
  obtain ⟨early, late⟩ := contents_of_finish session reading.finish
  have shown (later : List Message) :
      (later.map (Reading.update session)).filterMap Event.content? =
        later.map session.content := by
    rw [List.filterMap_map]
    exact congrFun List.filterMap_eq_map later
  rw [run_of_reads reads, Reading.course]
  cases messages : reading.messages with
  | nil => exact early
  | cons first later =>
    show session.content first :: (later.map (Reading.update session) ++
      reading.finish.lateEvents session).filterMap Event.content? = _
    rw [List.filterMap_append, shown, late, List.append_nil, List.map_cons]

end Session

/-! ## Runs over a network -/

namespace Configuration

/-- The configuration, with inspection or without. -/
def inspecting (configuration : Configuration) (inspect : Bool) : Configuration :=
  { configuration with inspect }

/-- The messages that a run takes up over a network. -/
inductive Hears (configuration : Configuration) (route : Route) : List Message → Prop
  | unconnected :
      (∀ incidents, route.attempt configuration.endpoint ≠ .connected incidents) →
      Hears configuration route []
  | connected {incidents : List Incident} {reading : Reading} :
      route.attempt configuration.endpoint = .connected incidents →
      configuration.session.Reads incidents reading →
      Hears configuration route reading.messages

theorem shows_of_contents {configuration : Configuration} {route : Route}
    {messages : List Message}
    (contents : (configuration.run route).contents =
      messages.map configuration.session.content) :
    (configuration.run route).Shows configuration.inspect messages := by
  refine ⟨?_, fun event _ => Event.message_bare event⟩
  rw [contents]
  refine List.map_congr_left fun message _ => ?_
  rw [length_bytes]
  rfl

theorem exists_shows (configuration : Configuration) (route : Route) :
    ∃ messages, configuration.Hears route messages ∧
      (configuration.run route).Shows configuration.inspect messages := by
  cases attempt : route.attempt configuration.endpoint with
  | connected incidents =>
    obtain ⟨reading, reads⟩ := Session.exists_reads configuration.session incidents
    refine ⟨_, .connected attempt reads, shows_of_contents ?_⟩
    rw [Configuration.run, attempt]
    exact Session.contents_of_reads reads
  | unanswered | interrupted | failed =>
    refine ⟨[], .unconnected fun incidents connected => ?_, shows_of_contents ?_⟩
    · rw [attempt] at connected
      cases connected
    · rw [Configuration.run, attempt]
      rfl

theorem bare_run_inspecting (configuration : Configuration) (inspect : Bool) (route : Route) :
    ((configuration.inspecting inspect).run route).bare =
      configuration.session.blind.run (route.attempt configuration.endpoint).blank :=
  Session.bare_run _

end Configuration

/-- Contents are shown, and nothing else comes of them. Take two runs of one configuration, each
with inspection or without, over networks that differ at most in the bytes of messages, and not in
how many there are. They do the same and tell the same, but for what is shown. That is the
inspection of each message that was taken up, or nothing. -/
theorem contents_only_shown (configuration : Configuration) (inspect inspect' : Bool)
    {route route' : Route}
    (alike : (route.attempt configuration.endpoint).Alike
      (route'.attempt configuration.endpoint)) :
    ((configuration.inspecting inspect).run route).SameButShown
      ((configuration.inspecting inspect').run route') ∧
    (∃ messages, (configuration.inspecting inspect).Hears route messages ∧
      ((configuration.inspecting inspect).run route).Shows inspect messages) ∧
    ∃ messages, (configuration.inspecting inspect').Hears route' messages ∧
      ((configuration.inspecting inspect').run route').Shows inspect' messages := by
  refine ⟨Course.sameButShown_of_bare ?_, Configuration.exists_shows _ route,
    Configuration.exists_shows _ route'⟩
  rw [Configuration.bare_run_inspecting, Configuration.bare_run_inspecting,
    Attempt.blank_eq_of_alike alike]

/-- A network that carries a message of two bytes, then a ping and one of a byte, and nothing more.
Left open are the byte that tells a text from other contents, and what each message holds. -/
def carrying (first later : UInt8 × Bytes) : Route :=
  .carried [.arrived (Utf8.encode WebSocket.Upgrade.agreement ++ [first.1, 2] ++ first.2),
    .passed 400, .arrived ([0x89, 0, later.1, 1] ++ later.2), .passed 1000]

/-- A text, and then no frame that could be decoded. -/
def textFirst : Route := carrying (0x81, [0xC3, 0xA9]) (0x82, [0])

def textLast : Route := carrying (0x82, [0xFF, 0]) (0x81, [0x41])

theorem contents_only_shown_carrying :
    (textFirst.attempt CommandLine.loopback.endpoint).Alike
      (textLast.attempt CommandLine.loopback.endpoint) ∧
    ((CommandLine.loopback.inspecting true).run textFirst).SameButShown
      ((CommandLine.loopback.inspecting false).run textLast) := by
  have first : textFirst.attempt CommandLine.loopback.endpoint =
      .connected [.signal (.message (.text "é")), .passed 400, .signal (.ping []),
        .signal (.message (.binary [0])), .passed 1000] := by decide +kernel
  have last : textLast.attempt CommandLine.loopback.endpoint =
      .connected [.signal (.message (.binary [0xFF, 0])), .passed 400, .signal (.ping []),
        .signal (.message (.text "A")), .passed 1000] := by decide +kernel
  have alike : (textFirst.attempt CommandLine.loopback.endpoint).Alike
      (textLast.attempt CommandLine.loopback.endpoint) := by
    rw [first, last]
    exact .connected (.cons (.message (by decide +kernel)) (.cons (.same _) (.cons (.same _)
      (.cons (.message (by decide +kernel)) (.cons (.same _) .nil)))))
  exact ⟨alike, (contents_only_shown CommandLine.loopback true false alike).1⟩

end SyncProbe
