import SyncProbe.Proofs.Output.Lossless

/-!
# Words and JSON tell the same

The line of an event for a person and its line of JSON are written from the same event by two
writers that know nothing of each other. The words leave out what follows from the rest: a presence
that is not removed, a length of zero behind the frame, a reason without a close code. So two events
of runs read the same in words exactly if they have the same line of JSON.

Results:
1. `Event.lead`, `Event.take_message`: the first letters of the words tell the events apart.
2. `Event.remark_inj`, `Event.closingText_inj`: so do the optional parts at the end.
3. `Event.same_of_message`: the words tell the event.
4. `words_agree_with_json`: words and JSON tell the same.
-/

namespace SyncProbe

open Text (EndsNumeral endsNumeral_append text_numeral_inj)

namespace Event

/-! ## The front of the words -/

/-- The first letters of the words for an event. -/
def lead : Event → List Char
  | connected _ => ['C', 'o', 'n', 'n', 'e', 'c', 't', 'e', 'd', ' ']
  | initialState _ _ => ['R', 'e', 'c', 'e', 'i', 'v', 'e', 'd', ' ', 'i']
  | waiting => ['S', 't', 'a', 'y', 'i', 'n', 'g', ' ', 'c', 'o']
  | update _ _ => ['R', 'e', 'c', 'e', 'i', 'v', 'e', 'd', ' ', 'u']
  | idleTimeout _ => ['N', 'o', ' ', 'm', 'e', 's', 's', 'a', 'g', 'e']
  | disconnecting => ['D', 'i', 's', 'c', 'o', 'n', 'n', 'e', 'c', 't']
  | serverClosed _ _ => ['S', 'e', 'r', 'v', 'e', 'r', ' ', 'c', 'l', 'o']
  | stopped => ['S', 't', 'o', 'p', 'p', 'e', 'd']

/-- What is said of a message behind its size. -/
def remark : Option Inspection → String
  | some frame => " (" ++ frame.text ++ ")"
  | none => ""

theorem annotate_eq (line : String) (frame : Option Inspection) :
    annotate line frame = line ++ remark frame := by
  cases frame with
  | none => rw [remark, String.append_empty, annotate]
  | some frame => simp only [annotate, remark, String.append_assoc]

theorem annotate_size (before : String) (size : Nat) (frame : Option Inspection) :
    annotate (before ++ size.repr ++ " bytes") frame =
      before ++ size.repr ++ (" bytes" ++ remark frame) := by
  rw [annotate_eq, String.append_assoc]

theorem message_initialState (size : Nat) (frame : Option Inspection) :
    (initialState size frame).message =
      "Received initial state: " ++ size.repr ++ (" bytes" ++ remark frame) :=
  annotate_size "Received initial state: " size frame

theorem message_update (size : Nat) (frame : Option Inspection) :
    (update size frame).message =
      "Received update: " ++ size.repr ++ (" bytes" ++ remark frame) :=
  annotate_size "Received update: " size frame

theorem message_idleTimeout (milliseconds : Nat) :
    (idleTimeout milliseconds).message =
      "No message within " ++ milliseconds.repr ++ " ms, closing connection" :=
  rfl

theorem take_message (event : Event) : event.message.toList.take 10 = event.lead := by
  cases event with
  | waiting | disconnecting | stopped => rfl
  | connected endpoint =>
    show ("Connected to " ++ endpoint.text).toList.take 10 = _
    rw [String.toList_append]
    rfl
  | serverClosed code reason =>
    show ("Server closed the connection" ++ closingText code reason).toList.take 10 = _
    rw [String.toList_append]
    rfl
  | initialState size frame =>
    rw [message_initialState, String.append_assoc, String.toList_append]
    rfl
  | update size frame =>
    rw [message_update, String.append_assoc, String.toList_append]
    rfl
  | idleTimeout milliseconds =>
    rw [message_idleTimeout, String.append_assoc, String.toList_append]
    rfl

theorem lead_of_message {event event' : Event} (same : event.message = event'.message) :
    event.lead = event'.lead := by
  rw [← take_message, same, take_message]

/-! ## The end of the words -/

/-- A line that says what a message holds never reads like one that does not. -/
theorem remark_some_ne (frame : Inspection) : remark (some frame) ≠ remark none := by
  intro same
  simp [remark, String.append_eq_empty_iff] at same

/-- What is said of a message tells the inspection of its bytes. -/
theorem remark_inj {frame frame' : Option Inspection}
    (inspected : ∀ shown ∈ frame, ∃ data, shown = Inspection.ofBytes data)
    (inspected' : ∀ shown ∈ frame', ∃ data, shown = Inspection.ofBytes data)
    (same : remark frame = remark frame') : frame = frame' := by
  cases frame with
  | none =>
    cases frame' with
    | none => rfl
    | some shown' => exact absurd same.symm (remark_some_ne shown')
  | some shown =>
    cases frame' with
    | none => exact absurd same (remark_some_ne shown)
    | some shown' =>
      obtain ⟨data, rfl⟩ := inspected shown rfl
      obtain ⟨data', rfl⟩ := inspected' shown' rfl
      have texts : (Inspection.ofBytes data).text = (Inspection.ofBytes data').text :=
        (String.append_right_inj _).mp ((String.append_left_inj _).mp same)
      rw [Inspection.text_inj texts]

/-- What follows a close code. -/
def reasonText (reason : String) : String :=
  if reason.isEmpty then ")" else ": " ++ reason ++ ")"

theorem endsNumeral_reasonText (reason : String) : EndsNumeral (reasonText reason).toList := by
  unfold reasonText
  split
  · decide
  · rw [String.append_assoc]
    exact endsNumeral_append rfl rfl _

theorem closingText_some (code : Nat) (reason : String) :
    closingText (some code) reason = " (" ++ code.repr ++ reasonText reason := by
  show (if reason.isEmpty then " (" ++ code.repr ++ ")"
    else " (" ++ code.repr ++ ": " ++ reason ++ ")") = _
  unfold reasonText
  split
  · rfl
  · simp only [String.append_assoc]

theorem reasonText_inj {reason reason' : String} (same : reasonText reason = reasonText reason') :
    reason = reason' := by
  -- A reason that is missing and one that is given differ in the first character.
  have other (text : String) : ")" ≠ ": " ++ text ++ ")" := by
    intro equal
    have chars := congrArg String.toList equal
    rw [String.append_assoc, String.toList_append] at chars
    cases chars
  unfold reasonText at same
  split at same <;> split at same
  · next empty empty' =>
    rw [String.isEmpty_iff.mp empty, String.isEmpty_iff.mp empty']
  · exact absurd same (other reason')
  · exact absurd same.symm (other reason)
  · exact (String.append_right_inj _).mp ((String.append_left_inj _).mp same)

/-- The code and the reason of a close are told, as long as no reason comes without a code. -/
theorem closingText_inj {code code' : Option Nat} {reason reason' : String}
    (bare : code = none → reason = "") (bare' : code' = none → reason' = "")
    (same : closingText code reason = closingText code' reason') :
    code = code' ∧ reason = reason' := by
  cases code with
  | none =>
    cases code' with
    | none => exact ⟨rfl, (bare rfl).trans (bare' rfl).symm⟩
    | some number' =>
      rw [closingText_some] at same
      simp [closingText, String.append_eq_empty_iff] at same
  | some number =>
    cases code' with
    | none =>
      rw [closingText_some] at same
      simp [closingText, String.append_eq_empty_iff] at same
    | some number' =>
      rw [closingText_some, closingText_some] at same
      obtain ⟨rfl, reasons⟩ := text_numeral_inj (endsNumeral_reasonText _)
        (endsNumeral_reasonText _) same
      exact ⟨rfl, reasonText_inj reasons⟩

/-! ## The words as a whole -/

/-- The inspection that an event shows. -/
def shown? (event : Event) : Option Inspection :=
  event.content?.bind Prod.snd

theorem size_of_words {before : String} {size size' : Nat} {frame frame' : Option Inspection}
    (same : before ++ size.repr ++ (" bytes" ++ remark frame) =
      before ++ size'.repr ++ (" bytes" ++ remark frame')) :
    size = size' ∧ remark frame = remark frame' := by
  obtain ⟨sizes, rest⟩ := text_numeral_inj (endsNumeral_append rfl rfl _)
    (endsNumeral_append rfl rfl _) same
  exact ⟨sizes, (String.append_right_inj _).mp rest⟩

/-- No event that shows an inspection reads like one that shows none. -/
theorem message_ne_of_shown {event event' : Event} (shows : event.shown?.isSome)
    (bare : event'.shown? = none) : event.message ≠ event'.message := by
  intro same
  have leads := lead_of_message same
  cases event with
  | initialState size frame =>
    cases event' with
    | initialState size' frame' =>
      rw [message_initialState, message_initialState] at same
      obtain rfl : frame' = none := bare
      obtain ⟨shown, rfl⟩ := Option.isSome_iff_exists.mp shows
      exact remark_some_ne shown (size_of_words same).2
    | _ => cases leads
  | update size frame =>
    cases event' with
    | update size' frame' =>
      rw [message_update, message_update] at same
      obtain rfl : frame' = none := bare
      obtain ⟨shown, rfl⟩ := Option.isSome_iff_exists.mp shows
      exact remark_some_ne shown (size_of_words same).2
    | _ => cases leads
  | _ => cases shows

/-- The words for an event of a run tell the event. -/
theorem same_of_message {event event' : Event} (tellable : event.Tellable)
    (tellable' : event'.Tellable) (same : event.message = event'.message) :
    event.Same event' := by
  -- The front settles the kind of the event, and then the rest is read part by part.
  have leads := lead_of_message same
  have inspected {frame : Option Inspection} (small : ∀ shown ∈ frame, ∃ data,
      data.length < UInt64.size ∧ shown = Inspection.ofBytes data) :
      ∀ shown ∈ frame, ∃ data, shown = Inspection.ofBytes data := by
    intro shown present
    obtain ⟨data, _, inspects⟩ := small shown present
    exact ⟨data, inspects⟩
  cases event with
  | connected endpoint =>
    cases event' with
    | connected endpoint' => exact .connected ((String.append_right_inj _).mp same)
    | _ => cases leads
  | initialState size frame =>
    cases event' with
    | initialState size' frame' =>
      rw [message_initialState, message_initialState] at same
      obtain ⟨rfl, remarks⟩ := size_of_words same
      rw [remark_inj (inspected tellable.2) (inspected tellable'.2) remarks]
      exact .same _
    | _ => cases leads
  | update size frame =>
    cases event' with
    | update size' frame' =>
      rw [message_update, message_update] at same
      obtain ⟨rfl, remarks⟩ := size_of_words same
      rw [remark_inj (inspected tellable.2) (inspected tellable'.2) remarks]
      exact .same _
    | _ => cases leads
  | idleTimeout milliseconds =>
    cases event' with
    | idleTimeout milliseconds' =>
      rw [message_idleTimeout, message_idleTimeout] at same
      obtain ⟨rfl, _⟩ := text_numeral_inj (by decide) (by decide) same
      exact .same _
    | _ => cases leads
  | serverClosed code reason =>
    cases event' with
    | serverClosed code' reason' =>
      obtain ⟨rfl, rfl⟩ := closingText_inj tellable.2 tellable'.2
        ((String.append_right_inj _).mp same)
      exact .same _
    | _ => cases leads
  | waiting | disconnecting | stopped =>
    cases event' <;> first | exact .same _ | cases leads

theorem message_of_same {event event' : Event} (same : event.Same event') :
    event.message = event'.message := by
  cases same with
  | connected texts => exact congrArg ("Connected to " ++ ·) texts
  | same => rfl

theorem toJson_of_same {event event' : Event} (same : event.Same event') :
    event.toJson = event'.toJson := by
  cases same with
  | connected texts => rw [toJson, toJson, members, members, texts, name, name]
  | same => rfl

end Event

/-! ## Words and JSON -/

namespace Entry

theorem plainText_event_inj {event event' : Event} :
    (Entry.event event).text .plainText = (Entry.event event').text .plainText ↔
      event.message = event'.message :=
  String.append_right_inj _

/-- Two events that runs can tell read the same exactly if they have the same line of JSON. -/
theorem plainText_eq_iff_json_eq {event event' : Event} (tellable : event.Tellable)
    (tellable' : event'.Tellable) :
    (Entry.event event).text .plainText = (Entry.event event').text .plainText ↔
      (Entry.event event).text .json = (Entry.event event').text .json := by
  rw [plainText_event_inj]
  constructor
  · intro same
    have told := Event.same_of_message tellable tellable' same
    exact congrArg Json.text (Event.toJson_of_same told)
  · intro same
    exact Event.message_of_same (Event.same_of_text (Event.fits_of_tellable tellable)
      (Event.fits_of_tellable tellable') same)

end Entry

/-- Words and JSON tell the same of every event that a run tells. The words for a summary that comes
from an inspection tell the summary, those for an error tell the error, and no summary reads like an
error. And no line that says what a message holds reads like one that does not. -/
theorem words_agree_with_json :
    (∀ (configuration : Configuration) (route : Route),
      ∀ event ∈ (configuration.run route).events, event.Tellable) ∧
    (∀ event event' : Event, event.Tellable → event'.Tellable →
      ((Entry.event event).text .plainText = (Entry.event event').text .plainText ↔
        (Entry.event event).text .json = (Entry.event event').text .json)) ∧
    (∀ (data data' : Bytes) (summary summary' : Summary),
      Summary.inspect data = .ok summary → Summary.inspect data' = .ok summary' →
      summary.text = summary'.text → summary = summary') ∧
    (∀ error error' : DecodeError, error.message = error'.message → error = error') ∧
    (∀ (summary : Summary) (error : DecodeError),
      (Inspection.frame summary).text ≠ (Inspection.undecodable error).text) ∧
    ∀ event event' : Event, event.shown?.isSome → event'.shown? = none →
      (Entry.event event).text .plainText ≠ (Entry.event event').text .plainText := by
  refine ⟨fun configuration route => (configuration.bounded_run route).events,
    fun _ _ => Entry.plainText_eq_iff_json_eq, ?_, fun _ _ => DecodeError.message_inj,
    Inspection.text_frame_ne_undecodable, ?_⟩
  · intro data data' summary summary' inspects inspects' same
    exact Summary.text_inj (Summary.inspected_of_inspect inspects)
      (Summary.inspected_of_inspect inspects') same
  · intro event event' shows bare same
    exact Event.message_ne_of_shown shows bare (Entry.plainText_event_inj.mp same)

/-- A message that takes the presence of client 5 away, with a byte behind its frame. -/
def departure : Bytes := [2, 5, 0, 0xFF]

/-- The same message, for another client. -/
def otherDeparture : Bytes := [2, 6, 0, 0xFF]

/-- A server that sends two bytes, and then closes with a code and a reason. -/
def partingRoute : Route :=
  .carried [.arrived (Utf8.encode WebSocket.Upgrade.agreement ++
    [0x82, 2, 0, 0, 0x88, 5, 0x03, 0xE8, 98, 121, 101])]

theorem words_agree_with_json_departure :
    ((.serverClosed (some 1000) "bye") ∈ (CommandLine.loopback.run partingRoute).events ∧
      Event.Tellable (.serverClosed (some 1000) "bye")) ∧
    Event.Tellable (.update 4 (some (.ofBytes departure))) ∧
    Event.Tellable (.update 4 (some (.ofBytes otherDeparture))) ∧
    ((Entry.event (.update 4 (some (.ofBytes departure)))).text .plainText =
        (Entry.event (.update 4 (some (.ofBytes otherDeparture)))).text .plainText ↔
      (Entry.event (.update 4 (some (.ofBytes departure)))).text .json =
        (Entry.event (.update 4 (some (.ofBytes otherDeparture)))).text .json) ∧
    Summary.inspect departure = .ok (.ofFrame (.awareness 5 none) 1) ∧
    Summary.ofFrame (.awareness 5 none) 1 = ⟨.awareness, 0, 1, some 5, some true⟩ ∧
    DecodeError.unknownKind 0x107 = .unknownKind 7 ∧
    (Entry.event (.update 4 (some (.ofBytes departure)))).text .plainText ≠
      (Entry.event (.update 4 none)).text .plainText := by
  have tellable (data : Bytes) (small : data.length < UInt64.size) :
      Event.Tellable (.update 4 (some (.ofBytes data))) := by
    refine ⟨by decide, fun shown present => ⟨data, small, ?_⟩⟩
    rw [← Option.some.inj present]
  have leaves := tellable departure (by decide)
  have other := tellable otherDeparture (by decide)
  have inspects : Summary.inspect departure = .ok (.ofFrame (.awareness 5 none) 1) := rfl
  have closes : (.serverClosed (some 1000) "bye") ∈
      (CommandLine.loopback.run partingRoute).events := by
    decide +kernel
  obtain ⟨tells, agree, summaries, errors, _, annotated⟩ := words_agree_with_json
  exact ⟨⟨closes, tells _ _ _ closes⟩, leaves, other, agree _ _ leaves other, inspects,
    summaries departure departure _ _ inspects inspects rfl, errors _ _ rfl,
    annotated _ _ rfl rfl⟩

end SyncProbe
