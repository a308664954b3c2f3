import SyncProbe.Program
import SyncProbe.Proofs.CommandLine.Values
import SyncProbe.Proofs.Session.Reading

/-!
# What a program writes over a whole run

Events are written as they happen, the report is gathered beside them and written last, and the exit
code comes from what the run comes to. All three tell one `Story`: what is written has one of six
forms, the form gives the exit code, and a report repeats what the events before it told.

Results:
1. `form_of_story`: what is written has one form at most.
2. `story_of_course`: a reading that ends has a story behind its connection.
3. `run_tells_one_story`: so has every program that runs, with the idle timeout that its command
   line gives.
-/

namespace SyncProbe

open WebSocket (Message)

/-! ## Stories -/

/-- What is written over a whole run, in outline. -/
inductive Form where
  /-- The user stops the run before there is a connection. -/
  | stoppedEarly
  /-- The user stops the run before the first message. -/
  | stopped
  /-- The run has heard a first message, and ends with a report. -/
  | finished
  /-- No connection is made. -/
  | unconnected
  /-- The run fails before the first message. -/
  | brokenEarly
  | broken
deriving DecidableEq, Repr

namespace Form

def exitCode : Form → Nat
  | stoppedEarly | stopped | finished => 0
  | unconnected => 101
  | brokenEarly | broken => 1

/-- The form of what is written, if it has one. It shows at the start and at the end. -/
def ofEntries? : List Entry → Option Form
  | .event .stopped :: _ => some stoppedEarly
  | .failure _ :: _ => some unconnected
  | .event (.connected _) :: .event .stopped :: _ => some stopped
  | .event (.connected _) :: .failure _ :: _ => some brokenEarly
  | .event (.connected _) :: .event (.initialState _ _) :: rest =>
    match rest.getLast? with
    | some (.report _) => some finished
    | some (.failure _) => some broken
    | _ => none
  | _ => none

end Form

/-- What is written of a message behind the first one. -/
def Entry.update (content : Nat × Option Inspection) : Entry :=
  .event (.update content.1 content.2)

namespace Configuration

/-- The event in the end, and the ending in the report. -/
inductive Tells (configuration : Configuration) : Event → Ending → Prop
  | idleTimeout : Tells configuration (.idleTimeout configuration.idleTimeout) .idleTimeout
  | disconnecting : Tells configuration .disconnecting .interrupted
  | serverClosed {code : Option Nat} {reason : String} :
      Tells configuration (.serverClosed code reason) (.serverClosed code reason)

/-- `configuration.Story form entries`: the entries tell of a whole run in that form, and agree with
each other and with the configuration. -/
inductive Story (configuration : Configuration) : Form → List Entry → Prop
  | stoppedEarly :
      Story configuration .stoppedEarly
        [.event .stopped, .report ⟨configuration.endpoint, none, [], .interrupted⟩]
  | stopped :
      Story configuration .stopped
        [.event (.connected configuration.endpoint), .event .stopped,
          .report ⟨configuration.endpoint, none, [], .interrupted⟩]
  | finished {size : Nat} {frame : Option Inspection} {updates : List (Nat × Option Inspection)}
      {last : Event} {ending : Ending} :
      configuration.Tells last ending →
      Story configuration .finished
        (.event (.connected configuration.endpoint) :: .event (.initialState size frame) ::
          .event .waiting :: (updates.map .update ++
            [.event last,
              .report ⟨configuration.endpoint, some size, updates.map Prod.fst, ending⟩]))
  | unconnected {error : WebSocket.Error} :
      Story configuration .unconnected
        [.failure (.probe (.connect configuration.endpoint error))]
  | closedEarly :
      Story configuration .brokenEarly
        [.event (.connected configuration.endpoint), .failure (.probe .closedBeforeInitialState)]
  | brokenEarly {error : WebSocket.Error} :
      Story configuration .brokenEarly
        [.event (.connected configuration.endpoint), .failure (.probe (.receive error))]
  | broken {size : Nat} {frame : Option Inspection} {updates : List (Nat × Option Inspection)}
      {error : WebSocket.Error} :
      Story configuration .broken
        (.event (.connected configuration.endpoint) :: .event (.initialState size frame) ::
          .event .waiting :: (updates.map .update ++ [.failure (.probe (.receive error))]))

variable {configuration : Configuration}

/-- What is written has one form at most. -/
theorem form_of_story {form : Form} {entries : List Entry}
    (story : configuration.Story form entries) : Form.ofEntries? entries = some form := by
  cases story with
  | stoppedEarly | stopped | unconnected | closedEarly | brokenEarly => rfl
  | finished | broken => simp [Form.ofEntries?, List.getLast?_cons]

/-! ## The story of a run -/

/-- The idle timeout is told as it was given, since it is a number of 64 bits. -/
theorem tells_farewell (bounded : configuration.idleTimeout < UInt64.size) (ending : Ending) :
    configuration.Tells (configuration.session.farewell ending) ending := by
  cases ending with
  | idleTimeout =>
    have told : configuration.session.toldTimeout = configuration.idleTimeout := if_pos bounded
    rw [Session.farewell, told]
    exact .idleTimeout
  | interrupted => exact .disconnecting
  | serverClosed => exact .serverClosed

/-- Behind a first message, a finish that says how the run ended is told and reported. -/
theorem late_of_ending {session : Session} {received : Received} {finish : Finish}
    {ending : Ending} (ends : finish.ending? = some ending) :
    finish.lateEvents session = [session.farewell ending] ∧
      finish.lateOutcome session received = session.reportOf received ending := by
  rw [Finish.lateEvents, ends]
  cases finish with
  | idle | interrupted | closed | vanished =>
    cases ends
    exact ⟨rfl, rfl⟩
  | failed | never => cases ends

theorem story_of_early {finish : Finish} (frames : List Outgoing)
    (ends : finish.earlyOutcome configuration.session ≠ .pending) :
    ∃ form, configuration.Story form (.event (.connected configuration.endpoint) ::
        Course.entries ⟨finish.earlyEvents, frames, finish.earlyOutcome configuration.session⟩) ∧
      (finish.earlyOutcome configuration.session).exitCode = some form.exitCode := by
  cases finish with
  | idle | never => exact absurd rfl ends
  | interrupted => exact ⟨_, .stopped, rfl⟩
  | closed | vanished => exact ⟨_, .closedEarly, rfl⟩
  | failed => exact ⟨_, .brokenEarly, rfl⟩

theorem story_of_late (bounded : configuration.idleTimeout < UInt64.size) {finish : Finish}
    (frames : List Outgoing) (first : Message) (later : List Message)
    (ends : finish.lateOutcome configuration.session (.ofMessages first later) ≠ .pending) :
    ∃ form, configuration.Story form (.event (.connected configuration.endpoint) ::
        Course.entries ⟨.initialState (messageSize first)
            (configuration.session.inspection first) ::
          .waiting :: (later.map (Reading.update configuration.session) ++
            finish.lateEvents configuration.session), frames,
          finish.lateOutcome configuration.session (.ofMessages first later)⟩) ∧
      (finish.lateOutcome configuration.session (.ofMessages first later)).exitCode =
        some form.exitCode := by
  have told : (later.map (Reading.update configuration.session)).map Entry.event =
      (later.map configuration.session.content).map Entry.update := by
    rw [List.map_map, List.map_map]
    rfl
  have sizes : later.map messageSize = (later.map configuration.session.content).map Prod.fst := by
    rw [List.map_map]
    rfl
  simp only [Course.entries, List.map_cons, List.map_append, List.cons_append, List.append_assoc,
    told]
  cases ending : finish.ending? with
  | some ending' =>
    obtain ⟨lastEvent, reported⟩ := late_of_ending ending
    rw [lastEvent, reported, Received.ofMessages, sizes]
    exact ⟨_, .finished (tells_farewell bounded ending'), rfl⟩
  | none =>
    cases finish with
    | idle | interrupted | closed | vanished => cases ending
    | never => exact absurd rfl ends
    | failed => exact ⟨_, .broken, rfl⟩

/-- A reading that ends has a story behind its connection. -/
theorem story_of_course (bounded : configuration.idleTimeout < UInt64.size) (reading : Reading)
    (ends : (reading.course configuration.session).outcome ≠ .pending) :
    ∃ form, configuration.Story form (.event (.connected configuration.endpoint) ::
        (reading.course configuration.session).entries) ∧
      (reading.course configuration.session).outcome.exitCode = some form.exitCode := by
  rw [Reading.course] at ends ⊢
  cases messages : reading.messages with
  | nil =>
    rw [messages] at ends
    exact story_of_early _ ends
  | cons first later =>
    rw [messages] at ends
    exact story_of_late bounded _ first later ends

/-- A run that ends has a story. -/
theorem story_of_run (bounded : configuration.idleTimeout < UInt64.size) (attempt : Attempt)
    (ends : (configuration.session.run attempt).outcome ≠ .pending) :
    ∃ form, configuration.Story form (configuration.session.run attempt).entries ∧
      (configuration.session.run attempt).outcome.exitCode = some form.exitCode := by
  cases attempt with
  | unanswered => exact absurd rfl ends
  | interrupted => exact ⟨_, .stoppedEarly, rfl⟩
  | failed => exact ⟨_, .unconnected, rfl⟩
  | connected incidents =>
    obtain ⟨reading, reads⟩ := Session.exists_reads configuration.session incidents
    rw [Session.run_of_reads reads] at ends ⊢
    exact story_of_course bounded reading ends

end Configuration

/-! ## The story of a program -/

/-- Whatever a network does, a program that runs and comes to an end tells one story: what it writes
has exactly one form, and its exit code is the one of that form. -/
theorem run_tells_one_story [Naming] (invocation : Invocation) (route : Route)
    {configuration : Configuration}
    (accepted : CommandLine.parse invocation.arguments invocation.environment = .ok configuration)
    (ready : invocation.checkFilter = .ok ())
    (ends : (invocation.run route).exitCode ≠ none) :
    ∃ form, configuration.Story form (invocation.run route).entries ∧
      (invocation.run route).exitCode = some form.exitCode ∧
      ∀ other, configuration.Story other (invocation.run route).entries → other = form := by
  have runs : invocation.run route = .ran configuration.format (configuration.run route) := by
    rw [Invocation.run, accepted]
    simp only [ready]
  rw [runs] at ends ⊢
  have bounded := (CommandLine.valid_of_parse accepted).2.bounded
  have notPending : (configuration.run route).outcome ≠ .pending := fun pending => by
    rw [Execution.exitCode, pending] at ends
    exact ends rfl
  obtain ⟨form, story, code⟩ := Configuration.story_of_run bounded _ notPending
  refine ⟨form, story, code, fun other story' => ?_⟩
  exact Option.some.inj ((Configuration.form_of_story story').symm.trans
    (Configuration.form_of_story story))

/-- A server that agrees to the connection, sends messages of two bytes and of one byte, and goes
silent. -/
def briefRoute : Route :=
  .carried [.arrived (Utf8.encode WebSocket.Upgrade.agreement ++ [0x82, 2, 0, 0]), .passed 400,
    .arrived [0x82, 1, 7], .passed 1000]

def loopbackProbe : Invocation where
  arguments := [Utf8.encode "ws://[::1]"]

section

attribute [local instance] Naming.ascii

theorem run_tells_one_story_brief :
    CommandLine.parse loopbackProbe.arguments loopbackProbe.environment =
        .ok CommandLine.loopback ∧
      loopbackProbe.checkFilter = .ok () ∧
      CommandLine.loopback.Story .finished (loopbackProbe.run briefRoute).entries ∧
      (loopbackProbe.run briefRoute).exitCode = some 0 := by
  have accepted := CommandLine.parse_loopback
  have ready : loopbackProbe.checkFilter = .ok () := by decide +kernel
  have code : (loopbackProbe.run briefRoute).exitCode = some 0 := by decide +kernel
  obtain ⟨form, story, _⟩ := run_tells_one_story loopbackProbe briefRoute accepted ready
    (by rw [code]; exact Option.some_ne_none 0)
  have finished : Form.ofEntries? (loopbackProbe.run briefRoute).entries = some .finished := by
    decide +kernel
  cases Option.some.inj ((Configuration.form_of_story story).symm.trans finished)
  exact ⟨accepted, ready, story, code⟩

end

end SyncProbe
