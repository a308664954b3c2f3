import SyncProbe.Proofs.Output.Bounds
import SyncProbe.Proofs.Output.Lines

/-!
# Nothing is lost in a line of JSON

A program that asks for JSON gets one line for each thing that is written, and can read back from it
all that there is to know.

Results:
1. `Entry.lossless_of_fits`: one line, and an object with all fields of the entry.
2. `Inspection.shows_of_tells`: which fields the object of an inspected message has.
3. `json_lines_lossless`: both, for all that a program writes, and two events or two reports with
   one line are the same.
-/

namespace SyncProbe

open Json (Visible)

/-- The line of an entry is one line, without controls, and reads as an object with exactly the
fields of the entry. Among them is one that says what is written. -/
structure Entry.Lossless (entry : Entry) : Prop where
  visible : ∀ c ∈ (entry.text .json).toList, Visible c
  line : Text.lines (Execution.print .json [entry]) = [entry.text .json, ""]
  object : ∃ json, Json.parse (entry.text .json) = .ok json ∧ entry.Tells json ∧
    Entry.Kind.ofJson? json = some entry.kind

/-- The fields that the object of an inspected message has, by what the message holds. -/
structure Inspection.Shows (data : Bytes) (json : Json) : Prop where
  error : (json.member? "error").isSome ↔ ∃ error, Frame.decode data = .error error
  client : (json.member? "client_id").isSome ↔
    ∃ clientId state rest, Frame.decode data = .ok (.awareness clientId state, rest)
  removed : (json.member? "removed").isSome ↔
    ∃ clientId state rest, Frame.decode data = .ok (.awareness clientId state, rest)

namespace Entry

theorem visible_of_fits {entry : Entry} (fits : entry.Fits) :
    ∀ c ∈ (entry.text .json).toList, Visible c := by
  intro c inside
  rw [text, Json.text, String.toList_ofList] at inside
  exact Json.visible_of_mem_chars (readable_entry fits) inside

theorem isLine_of_fits {entry : Entry} (fits : entry.Fits) : Text.IsLine (entry.text .json) := by
  intro c inside same
  have visible := visible_of_fits fits c inside
  rw [same] at visible
  exact absurd visible (by decide)

theorem lossless_of_fits {entry : Entry} (fits : entry.Fits) : entry.Lossless := by
  constructor
  · exact visible_of_fits fits
  · rw [Execution.lines_print, Execution.flatMap_lines
      (List.forall_mem_singleton.mpr (isLine_of_fits fits))]
    rfl
  · have tells := tells_entry entry
    exact ⟨_, Json.parse_text (readable_entry fits), tells, kind_of_tells tells⟩

end Entry

theorem Inspection.shows_of_tells {data : Bytes} {json : Json}
    (tells : (ofBytes data).Tells json) : Shows data json := by
  unfold ofBytes Summary.inspect at tells
  cases decodes : Frame.decode data with
  | error error =>
    rw [decodes] at tells
    obtain ⟨message, only⟩ := tells
    constructor
    · simp [message, decodes]
    · simp [only "client_id" (by decide), decodes]
    · simp [only "removed" (by decide), decodes]
  | ok result =>
    obtain ⟨frame, rest⟩ := result
    rw [decodes] at tells
    have tells : (Summary.ofFrame frame rest.length).Tells json := tells
    constructor
    · simp [tells.only "error" (by decide), decodes]
    · rw [tells.client]
      cases frame <;> simp [Summary.ofFrame, decodes]
    · rw [tells.removed]
      cases frame <;> simp [Summary.ofFrame, decodes]

theorem Event.same_of_text {event event' : Event} (fits : event.Fits) (fits' : event'.Fits)
    (same : event.toJson.text = event'.toJson.text) : event.Same event' := by
  have read := Json.sorted_eq_of_text_eq (readable_event fits) (readable_event fits') same
  have tells := tells_event event
  rw [read] at tells
  exact same_of_tells tells (tells_event event')

theorem Report.same_of_text {report report' : Report} (fits : report.Fits) (fits' : report'.Fits)
    (same : report.toJson.text = report'.toJson.text) : report.Same report' := by
  have read := Json.sorted_eq_of_text_eq (readable_report fits) (readable_report fits') same
  have tells := tells_report report
  rw [read] at tells
  exact same_of_tells tells (tells_report report')

/-- The format that a program writes in, once it has read its command line. -/
def Execution.format? : Execution → Option Format
  | answered _ => none
  | unready format _ => some format
  | ran format _ => some format

/-- Everything that a program writes in JSON is one entry to a line, and its numbers fit. -/
theorem Invocation.lines_output [Naming] {invocation : Invocation} {route : Route}
    {environment : CommandLine.Environment}
    (json : (invocation.run route).format? = some .json) :
    (∀ entry ∈ (invocation.run route).entries, entry.Fits) ∧
      Text.lines ((invocation.run route).output environment) =
        (invocation.run route).entries.map (Entry.text .json) ++ [""] := by
  have fits : ∀ entry ∈ (invocation.run route).entries, entry.Fits :=
    fun entry written => fits_of_mem_entries written
  refine ⟨fits, ?_⟩
  have lines := Execution.lines_print .json (invocation.run route).entries
  rw [Execution.flatMap_lines fun entry written => Entry.isLine_of_fits (fits entry written)]
    at lines
  cases execution : invocation.run route with
  | answered reply =>
    rw [execution] at json
    cases json
  | unready format failure | ran format course =>
    rw [execution] at json lines
    cases json
    exact lines

/-- Nothing is lost in a line of JSON. What is written takes one line without controls, from which
all its fields can be read, and what it is: an event, a report or a failure. An inspected message
shows an error exactly if it holds no frame, and a client and a removal exactly if the frame speaks
of presence. Two events with one line are the same, and so are two reports. And what a program
writes is made of such lines. -/
theorem json_lines_lossless [Naming] :
    (∀ entry : Entry, entry.Fits → entry.Lossless) ∧
    (∀ data json, (Inspection.ofBytes data).Tells json → Inspection.Shows data json) ∧
    (∀ event event' : Event, event.Fits → event'.Fits →
      event.toJson.text = event'.toJson.text → event.Same event') ∧
    (∀ report report' : Report, report.Fits → report'.Fits →
      report.toJson.text = report'.toJson.text → report.Same report') ∧
    ∀ (invocation : Invocation) (route : Route) (environment : CommandLine.Environment),
      (invocation.run route).format? = some .json →
      (∀ entry ∈ (invocation.run route).entries, entry.Fits) ∧
        Text.lines ((invocation.run route).output environment) =
          (invocation.run route).entries.map (Entry.text .json) ++ [""] :=
  ⟨fun _ => Entry.lossless_of_fits, fun _ _ => Inspection.shows_of_tells,
    fun _ _ => Event.same_of_text, fun _ _ => Report.same_of_text,
    fun _ _ _ => Invocation.lines_output⟩

/-- A close with a code, and with a reason that no line could hold as it is. -/
def awkwardClose : Event :=
  .serverClosed (some 4999) "\"\\\n\x01é\x7d"

/-- A run of three messages that the server ended without a code. -/
def plainReport : Report where
  endpoint := CommandLine.loopback.endpoint
  initial := some 3
  updates := [2, 400]
  ending := .serverClosed none ""

/-- A message that takes a presence away, with a byte behind its frame. -/
def paddedRemoval : Bytes := [2, 0x85, 0x01, 0, 0xFF]

/-- A probe of this machine that asks for JSON. -/
def askingForJson : Invocation where
  arguments := [Utf8.encode "--output-format=json", Utf8.encode "ws://[::1]"]

section

attribute [local instance] Naming.ascii

theorem json_lines_lossless_awkwardClose :
    ((Entry.event awkwardClose).Fits ∧ (Entry.event awkwardClose).Lossless) ∧
    Inspection.Shows paddedRemoval (Inspection.ofBytes paddedRemoval).toJson.sorted ∧
    awkwardClose.Same awkwardClose ∧
    (plainReport.Fits ∧ plainReport.Same plainReport) ∧
    (askingForJson.run (.blocked .refused)).format? = some .json ∧
    Text.lines ((askingForJson.run (.blocked .refused)).output {}) =
      (askingForJson.run (.blocked .refused)).entries.map (Entry.text .json) ++ [""] := by
  have fits : awkwardClose.Fits := by
    intro number present
    rw [← Option.some.inj present]
    decide
  have fitsReport : plainReport.Fits := by
    constructor
    · intro size present
      rw [← Option.some.inj present]
      decide
    · intro size among
      rcases List.mem_pair.mp among with rfl | rfl <;> decide
    · exact nofun
  have json : (askingForJson.run (.blocked .refused)).format? = some .json := by
    decide +kernel
  obtain ⟨lossless, shows, events, reports, lines⟩ := json_lines_lossless
  exact ⟨⟨fits, lossless _ fits⟩, shows _ _ (tells_inspection _), events _ _ fits fits rfl,
    ⟨fitsReport, reports _ _ fitsReport fitsReport rfl⟩, json, (lines _ _ {} json).2⟩

end

end SyncProbe
