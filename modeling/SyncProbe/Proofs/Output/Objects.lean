import SyncProbe.Program
import SyncProbe.Proofs.Frame.Wording
import SyncProbe.Proofs.Json.RoundTrip
import SyncProbe.Proofs.Session.Contents

/-!
# What a line of JSON tells

Each thing that is written is an object for a program, and `Tells` says which fields the object of
an event, a report or a failure has: those that the value has a part for, and no others. Numbers
that fit in 64 bits survive being read.

Results:
1. `readable_entry`: the object of an entry whose numbers fit can be read back.
2. `tells_entry`: read back, it has exactly the fields of the entry.
3. `kind_of_tells`: its fields say what kind of thing it is.
4. `Event.same_of_tells`, `Report.same_of_tells`: an object tells one event, or one report.
-/

namespace SyncProbe

/-! ## Numbers that fit -/

/-- The numbers of an inspection fit in 64 bits. -/
def Inspection.Fits : Inspection → Prop
  | frame summary => summary.payloadLength < UInt64.size ∧ summary.trailingLength < UInt64.size
  | undecodable _ => True

/-- The numbers of an event fit in 64 bits, and close codes in 16. -/
def Event.Fits : Event → Prop
  | initialState size frame | update size frame =>
    size < UInt64.size ∧ ∀ shown ∈ frame, shown.Fits
  | idleTimeout milliseconds => milliseconds < UInt64.size
  | serverClosed code _ => ∀ number ∈ code, number < UInt16.size
  | connected _ | waiting | disconnecting | stopped => True

def Ending.Fits : Ending → Prop
  | serverClosed code _ => ∀ number ∈ code, number < UInt16.size
  | idleTimeout | interrupted => True

structure Report.Fits (report : Report) : Prop where
  initial : ∀ size ∈ report.initial, size < UInt64.size
  updates : ∀ size ∈ report.updates, size < UInt64.size
  ending : report.ending.Fits

def Entry.Fits : Entry → Prop
  | event happened => happened.Fits
  | report observed => observed.Fits
  | failure _ | line _ => True

/-! ## Objects that can be read -/

section Readable

open Json (Readable)

variable {depth : Nat}

theorem readable_nat {n : Nat} (fits : n < UInt64.size) : Readable depth (.nat n) := by
  have bound : n < 18446744073709551616 := fits
  refine .integer ?_ ?_ <;> simp only [Json.maxInteger, UInt64.size] <;> omega

theorem readable_optionalMember {name : String} {value : Option Json}
    (readable : ∀ json ∈ value, Readable depth json) :
    ∀ member ∈ Summary.optionalMember name value, Readable depth member.2 := by
  cases value with
  | none => exact fun member none => absurd none List.not_mem_nil
  | some json => simpa [Summary.optionalMember] using readable json rfl

theorem readable_summary {summary : Summary} (fits : (Inspection.frame summary).Fits) :
    Readable (depth + 1) summary.toJson := by
  obtain ⟨payload, trailing⟩ := fits
  refine .object fun member among => ?_
  rcases List.mem_append.mp among with among | removed
  · rcases List.mem_append.mp among with among | client
    · simp only [List.mem_cons, List.not_mem_nil, or_false] at among
      rcases among with rfl | rfl | rfl
      · exact .string
      · exact readable_nat payload
      · exact readable_nat trailing
    · refine readable_optionalMember (fun json held => ?_) member client
      obtain ⟨clientId, _, rfl⟩ := Option.map_eq_some_iff.mp held
      exact readable_nat (Nat.lt_trans clientId.toNat_lt (by decide))
  · refine readable_optionalMember (fun json held => ?_) member removed
    obtain ⟨removed, _, rfl⟩ := Option.map_eq_some_iff.mp held
    exact .bool

theorem readable_inspection {frame : Inspection} (fits : frame.Fits) :
    Readable (depth + 1) frame.toJson := by
  cases frame with
  | frame summary => exact readable_summary fits
  | undecodable error => exact .object (by simpa using .string)

theorem readable_codeJson {code : Option Nat} (fits : ∀ number ∈ code, number < UInt16.size) :
    Readable depth (Event.codeJson code) := by
  cases code with
  | none => exact .null
  | some number => exact readable_nat (Nat.lt_trans (fits number rfl) (by decide))

theorem readable_messageMembers {size : Nat} {frame : Option Inspection}
    (fits : size < UInt64.size) (shown : ∀ inspection ∈ frame, inspection.Fits) :
    ∀ member ∈ Event.messageMembers size frame, Readable (depth + 1) member.2 := by
  intro member among
  rcases List.mem_cons.mp among with rfl | optional
  · exact readable_nat fits
  · refine readable_optionalMember (fun json held => ?_) member optional
    obtain ⟨inspection, present, rfl⟩ := Option.map_eq_some_iff.mp held
    exact readable_inspection (shown inspection present)

theorem readable_event {event : Event} (fits : event.Fits) :
    Readable (depth + 2) event.toJson := by
  refine .object fun member among => ?_
  rcases List.mem_cons.mp among with rfl | among
  · exact .string
  · cases event with
    | connected endpoint =>
      rw [List.mem_singleton.mp among]
      exact .string
    | initialState | update => exact readable_messageMembers fits.1 fits.2 member among
    | idleTimeout =>
      rw [List.mem_singleton.mp among]
      exact readable_nat fits
    | serverClosed =>
      simp only [Event.members, List.mem_cons, List.not_mem_nil, or_false] at among
      rcases among with rfl | rfl
      · exact readable_codeJson fits
      · exact .string
    | waiting | disconnecting | stopped => exact absurd among List.not_mem_nil

theorem readable_ending {ending : Ending} (fits : ending.Fits) :
    Readable (depth + 1) ending.toJson := by
  cases ending with
  | idleTimeout | interrupted => exact .object (by simpa using .string)
  | serverClosed code reason =>
    refine .object fun member among => ?_
    simp only [List.mem_cons, List.not_mem_nil, or_false] at among
    rcases among with rfl | rfl | rfl
    · exact .string
    · exact readable_codeJson fits
    · exact .string

theorem readable_report {report : Report} (fits : report.Fits) :
    Readable (depth + 2) report.toJson := by
  refine .object fun member among => ?_
  simp only [List.mem_cons, List.not_mem_nil, or_false] at among
  rcases among with rfl | rfl | rfl | rfl
  · exact .string
  · show Readable _ report.initialJson
    unfold Report.initialJson
    split
    · next size present => exact readable_nat (fits.initial size present)
    · exact .null
  · refine .array fun json among => ?_
    obtain ⟨size, update, rfl⟩ := List.mem_map.mp among
    exact readable_nat (fits.updates size update)
  · exact readable_ending fits.ending

theorem readable_failure (failure : Failure) : Readable (depth + 2) failure.toJson := by
  cases failure with
  | probe error => exact .object (by simpa using .string)
  | setup error causes =>
    refine .object fun member among => ?_
    rw [List.mem_singleton.mp among]
    refine .array fun json among => ?_
    obtain ⟨text, _, rfl⟩ := List.mem_map.mp among
    exact .string

theorem readable_line (line : Line) : Readable (depth + 2) line.toJson := by
  refine .object fun member among => ?_
  simp only [List.mem_cons, List.not_mem_nil, or_false] at among
  rcases among with rfl | rfl <;> exact .string

theorem readable_entry {entry : Entry} (fits : entry.Fits) :
    Readable Json.maxDepth entry.toJson := by
  cases entry with
  | event => exact readable_event fits
  | report => exact readable_report fits
  | failure failure => exact readable_failure failure
  | line line => exact readable_line line

end Readable

/-! ## Fields -/

/-- The object has the fields of the summary, and no others. -/
structure Summary.Tells (summary : Summary) (json : Json) : Prop where
  kind : json.member? "kind" = some (.string summary.kind.name)
  payload : json.member? "payload_len" = some (.nat summary.payloadLength)
  trailing : json.member? "trailing_len" = some (.nat summary.trailingLength)
  client : json.member? "client_id" = summary.clientId.map fun clientId => .nat clientId.toNat
  removed : json.member? "removed" = summary.removed.map .bool
  only : ∀ name ∉ ["kind", "payload_len", "trailing_len", "client_id", "removed"],
    json.member? name = none

/-- The object tells the summary, or the error and nothing else. -/
def Inspection.Tells : Inspection → Json → Prop
  | frame summary, json => summary.Tells json
  | undecodable error, json => json.member? "error" = some (.string error.message) ∧
      ∀ name ≠ "error", json.member? name = none

namespace Event

def endpoint? : Event → Option Url
  | connected endpoint => some endpoint
  | _ => none

def timeout? : Event → Option Nat
  | idleTimeout milliseconds => some milliseconds
  | _ => none

/-- The code and the reason of a close. -/
def closing? : Event → Option (Option Nat × String)
  | serverClosed code reason => some (code, reason)
  | _ => none

/-- The object has the fields of the event, and no others. A frame is there if one is shown. -/
structure Tells (event : Event) (json : Json) : Prop where
  name : json.member? "event" = some (.string event.name)
  endpoint : json.member? "endpoint" = event.endpoint?.map fun endpoint => .string endpoint.text
  bytes : json.member? "bytes" = event.content?.map fun content => .nat content.1
  frame : Option.Rel Inspection.Tells (event.content?.bind Prod.snd) (json.member? "frame")
  timeout : json.member? "timeout_ms" = event.timeout?.map .nat
  code : json.member? "code" = event.closing?.map fun closing => codeJson closing.1
  message : json.member? "message" = event.closing?.map fun closing => .string closing.2
  only : ∀ name ∉ ["event", "endpoint", "bytes", "frame", "timeout_ms", "code", "message"],
    json.member? name = none

end Event

namespace Ending

def reason : Ending → String
  | idleTimeout => "idle_timeout"
  | interrupted => "interrupted"
  | serverClosed _ _ => "server_closed"

/-- The code and the reason of a close. -/
def closing? : Ending → Option (Option Nat × String)
  | serverClosed code reason => some (code, reason)
  | _ => none

/-- The object has the fields of the ending, and no others. -/
structure Tells (ending : Ending) (json : Json) : Prop where
  reason : json.member? "reason" = some (.string ending.reason)
  code : json.member? "code" = ending.closing?.map fun closing => Event.codeJson closing.1
  message : json.member? "message" = ending.closing?.map fun closing => .string closing.2
  only : ∀ name ∉ ["reason", "code", "message"], json.member? name = none

end Ending

/-- The object has the fields of the report, and no others. A size that is missing is null. -/
structure Report.Tells (report : Report) (json : Json) : Prop where
  endpoint : json.member? "endpoint" = some (.string report.endpoint.text)
  initial : json.member? "initial_len" = some (report.initial.elim .null .nat)
  updates : json.member? "updates" = some (.array (report.updates.map .nat))
  ending : ∃ shown, json.member? "end" = some shown ∧ report.ending.Tells shown
  only : ∀ name ∉ ["endpoint", "initial_len", "updates", "end"], json.member? name = none

/-- The object has one field, named for the kind of failure: its message, or the whole chain of
errors. -/
def Failure.Tells : Failure → Json → Prop
  | probe error, json => json.member? "Probe" = some (.string error.message) ∧
      ∀ name ≠ "Probe", json.member? name = none
  | setup error causes, json =>
    json.member? "Setup" = some (.array ((error :: causes).map .string)) ∧
      ∀ name ≠ "Setup", json.member? name = none

structure Line.Tells (line : Line) (json : Json) : Prop where
  level : json.member? "level" = some (.string line.level.name)
  message : json.member? "message" = some (.string line.message)
  only : ∀ name ∉ ["level", "message"], json.member? name = none

namespace Entry

/-- The object has the fields of what is written, and no others. -/
def Tells : Entry → Json → Prop
  | event happened, json => happened.Tells json
  | report observed, json => observed.Tells json
  | failure cause, json => cause.Tells json
  | line said, json => said.Tells json

/-- What kind of thing is written. -/
inductive Kind where
  | event
  | report
  | failure
  | line
deriving DecidableEq, Repr

def kind : Entry → Kind
  | event _ => .event
  | report _ => .report
  | failure _ => .failure
  | line _ => .line

/-- The kind of thing that an object tells of: each kind has a field that no other kind has. -/
def Kind.ofJson? (json : Json) : Option Kind :=
  if (json.member? "event").isSome then some .event
  else if (json.member? "end").isSome then some .report
  else if (json.member? "Probe").isSome ∨ (json.member? "Setup").isSome then some .failure
  else if (json.member? "level").isSome then some .line
  else none

end Entry

/-! ## Reading fields -/

open Json (Distinct member?_sorted lookup_eq_none)

theorem distinct_summary (summary : Summary) :
    ∃ members, summary.toJson = .object members ∧ Distinct members := by
  refine ⟨_, rfl, ?_⟩
  cases summary.clientId <;> cases summary.removed <;> simp [Distinct, Summary.optionalMember]

theorem tells_summary (summary : Summary) : summary.Tells summary.toJson.sorted := by
  obtain ⟨kind, payload, trailing, client, removed⟩ := summary
  obtain ⟨members, written, distinct⟩ :=
    distinct_summary ⟨kind, payload, trailing, client, removed⟩
  have found (name : String) := member?_sorted name distinct
  rw [written]
  cases written
  constructor
  case only =>
    intro name other
    rw [found, lookup_eq_none]
    · rfl
    · cases client <;> cases removed <;> simp_all [Summary.optionalMember]
  all_goals
    rw [found]
    cases client <;> cases removed <;> rfl

theorem tells_inspection (frame : Inspection) : frame.Tells frame.toJson.sorted := by
  cases frame with
  | frame summary => exact tells_summary summary
  | undecodable error =>
    have distinct : Distinct [("error", .string error.message)] := by simp [Distinct]
    constructor
    · rw [Inspection.toJson, member?_sorted _ distinct]
      rfl
    · intro name other
      rw [Inspection.toJson, member?_sorted _ distinct, lookup_eq_none (by simpa using other)]
      rfl

theorem tells_event (event : Event) : event.Tells event.toJson.sorted := by
  have distinct : Distinct (("event", .string event.name) :: event.members) := by
    cases event with
    | initialState size frame | update size frame =>
      cases frame <;> simp [Distinct, Event.members, Event.messageMembers, Summary.optionalMember]
    | _ => simp [Distinct, Event.members]
  have found (name : String) := member?_sorted name distinct
  constructor
  case only =>
    intro name other
    rw [Event.toJson, found, lookup_eq_none]
    · rfl
    · cases event with
      | initialState size frame | update size frame =>
        cases frame <;> simp_all [Event.members, Event.messageMembers, Summary.optionalMember]
      | _ => simp_all [Event.members]
  case frame =>
    rw [Event.toJson, found]
    cases event with
    | initialState size frame | update size frame =>
      cases frame with
      | none => exact .none
      | some frame => exact .some (tells_inspection frame)
    | _ => exact .none
  all_goals
    rw [Event.toJson, found]
    cases event with
    | initialState size frame | update size frame => cases frame <;> rfl
    | serverClosed code reason => cases code <;> rfl
    | _ => rfl

theorem tells_ending (ending : Ending) : ending.Tells ending.toJson.sorted := by
  obtain ⟨members, written, distinct⟩ :
      ∃ members, ending.toJson = .object members ∧ Distinct members := by
    cases ending <;> exact ⟨_, rfl, by simp [Distinct]⟩
  have found (name : String) := member?_sorted name distinct
  rw [written]
  constructor
  case only =>
    intro name other
    rw [found, lookup_eq_none]
    · rfl
    · cases ending <;> cases written <;> simp_all
  all_goals
    rw [found]
    cases ending with
    | idleTimeout | interrupted =>
      cases written
      rfl
    | serverClosed code reason =>
      cases written
      cases code <;> rfl

theorem sorted_array_map {α : Type} {write : α → Json} (plain : ∀ value, (write value).sorted =
    write value) (values : List α) :
    (Json.array (values.map write)).sorted = .array (values.map write) := by
  rw [Json.sorted, Json.sortedElements_eq_map, List.map_map]
  exact congrArg Json.array (List.map_congr_left fun value _ => plain value)

theorem tells_report (report : Report) : report.Tells report.toJson.sorted := by
  have distinct : Distinct [
      ("endpoint", .string report.endpoint.text), ("initial_len", report.initialJson),
      ("updates", .array (report.updates.map .nat)), ("end", report.ending.toJson)] := by
    simp [Distinct]
  have found (name : String) := member?_sorted name distinct
  rw [Report.toJson]
  constructor
  case only =>
    intro name other
    rw [found, lookup_eq_none (by simpa using other)]
    rfl
  case ending => exact ⟨_, found "end", tells_ending report.ending⟩
  case updates =>
    rw [found]
    exact congrArg some (sorted_array_map (fun _ => rfl) report.updates)
  case initial =>
    rw [found]
    obtain ⟨endpoint, initial, updates, ending⟩ := report
    cases initial <;> rfl
  case endpoint =>
    rw [found]
    rfl

theorem tells_failure (failure : Failure) : failure.Tells failure.toJson.sorted := by
  cases failure with
  | probe error =>
    have distinct : Distinct [("Probe", .string error.message)] := by simp [Distinct]
    have found (name : String) := member?_sorted name distinct
    refine ⟨found "Probe", fun name other => ?_⟩
    rw [Failure.toJson, found, lookup_eq_none (by simpa using other)]
    rfl
  | setup error causes =>
    have distinct : Distinct [("Setup", .array ((error :: causes).map .string))] := by
      simp [Distinct]
    have found (name : String) := member?_sorted name distinct
    refine ⟨?_, fun name other => ?_⟩
    · rw [Failure.toJson, found]
      exact congrArg some (sorted_array_map (fun _ => rfl) (error :: causes))
    · rw [Failure.toJson, found, lookup_eq_none (by simpa using other)]
      rfl

theorem tells_line (line : Line) : line.Tells line.toJson.sorted := by
  have distinct :
      Distinct [("level", .string line.level.name), ("message", .string line.message)] := by
    simp [Distinct]
  have found (name : String) := member?_sorted name distinct
  refine ⟨found "level", found "message", fun name other => ?_⟩
  rw [Line.toJson, found, lookup_eq_none (by simpa using other)]
  rfl

/-- What is written tells all there is to tell. -/
theorem tells_entry (entry : Entry) : entry.Tells entry.toJson.sorted := by
  cases entry with
  | event happened => exact tells_event happened
  | report observed => exact tells_report observed
  | failure cause => exact tells_failure cause
  | line said => exact tells_line said

theorem kind_of_tells {entry : Entry} {json : Json} (tells : entry.Tells json) :
    Entry.Kind.ofJson? json = some entry.kind := by
  unfold Entry.Kind.ofJson?
  cases entry with
  | event =>
    rw [tells.name]
    rfl
  | report =>
    obtain ⟨shown, present, _⟩ := tells.ending
    rw [tells.only "event" (by decide), present]
    rfl
  | failure cause =>
    cases cause with
    | probe =>
      obtain ⟨message, only⟩ := tells
      rw [only "event" (by decide), only "end" (by decide), message]
      rfl
    | setup =>
      obtain ⟨chain, only⟩ := tells
      rw [only "event" (by decide), only "end" (by decide), only "Probe" (by decide), chain]
      rfl
  | line =>
    rw [tells.only "event" (by decide), tells.only "end" (by decide),
      tells.only "Probe" (by decide), tells.only "Setup" (by decide), tells.level]
    rfl

/-! ## Reading values back -/

theorem nat_inj {m n : Nat} (same : Json.nat m = Json.nat n) : m = n :=
  Int.ofNat.inj (JsonNumber.integer.inj (Json.number.inj same))

theorem elim_nat_inj {value value' : Option Nat}
    (same : value.elim Json.null .nat = value'.elim Json.null .nat) : value = value' := by
  cases value with
  | none =>
    cases value' with
    | none => rfl
    | some => cases same
  | some number =>
    cases value' with
    | none => cases same
    | some => exact congrArg some (nat_inj same)

theorem codeJson_inj {code code' : Option Nat} (same : Event.codeJson code = Event.codeJson code') :
    code = code' := by
  refine elim_nat_inj ?_
  cases code <;> cases code' <;> exact same

theorem frameKind_name_inj {kind kind' : FrameKind} (same : kind.name = kind'.name) :
    kind = kind' := by
  cases kind <;> cases kind' <;> first | rfl | simp [FrameKind.name] at same

theorem summary_of_tells {summary summary' : Summary} {json : Json} (tells : summary.Tells json)
    (tells' : summary'.Tells json) : summary = summary' := by
  obtain ⟨kind, payload, trailing, client, removed⟩ := summary
  obtain ⟨kind', payload', trailing', client', removed'⟩ := summary'
  obtain rfl : kind = kind' :=
    frameKind_name_inj (by simpa using tells.kind.symm.trans tells'.kind)
  obtain rfl : payload = payload' :=
    nat_inj (Option.some.inj (tells.payload.symm.trans tells'.payload))
  obtain rfl : trailing = trailing' :=
    nat_inj (Option.some.inj (tells.trailing.symm.trans tells'.trailing))
  obtain rfl : client = client' := by
    have same := tells.client.symm.trans tells'.client
    refine Option.map_injective (fun one other equal => ?_) same
    exact UInt32.toNat_inj.mp (nat_inj equal)
  obtain rfl : removed = removed' := by
    have same := tells.removed.symm.trans tells'.removed
    refine Option.map_injective (fun one other equal => ?_) same
    simpa using equal
  rfl

theorem inspection_of_tells {frame frame' : Inspection} {json : Json} (tells : frame.Tells json)
    (tells' : frame'.Tells json) : frame = frame' := by
  cases frame with
  | frame summary =>
    cases frame' with
    | frame summary' => exact congrArg Inspection.frame (summary_of_tells tells tells')
    | undecodable error =>
      have kind := tells.kind.symm.trans (tells'.2 "kind" (by decide))
      cases kind
  | undecodable error =>
    cases frame' with
    | frame summary =>
      have kind := tells'.kind.symm.trans (tells.2 "kind" (by decide))
      cases kind
    | undecodable error' =>
      have messages : error.message = error'.message := by
        simpa using tells.1.symm.trans tells'.1
      exact congrArg Inspection.undecodable (DecodeError.message_inj messages)

namespace Event

/-- The events are the same, where URLs are compared in their text form. -/
inductive Same : Event → Event → Prop
  | connected {endpoint endpoint' : Url} : endpoint.text = endpoint'.text →
      Same (.connected endpoint) (.connected endpoint')
  | same (event : Event) : Same event event

theorem content_of_tells {event event' : Event} {json : Json} (tells : event.Tells json)
    (tells' : event'.Tells json) {content content' : Nat × Option Inspection}
    (present : event.content? = some content) (present' : event'.content? = some content') :
    content = content' := by
  obtain ⟨size, frame⟩ := content
  obtain ⟨size', frame'⟩ := content'
  have sizes := tells.bytes.symm.trans tells'.bytes
  have frames := tells.frame
  have frames' := tells'.frame
  rw [present] at sizes frames
  rw [present'] at sizes frames'
  obtain rfl : size = size' := nat_inj (Option.some.inj sizes)
  suffices frame = frame' by rw [this]
  simp only [Option.bind_some] at frames frames'
  generalize json.member? "frame" = shown at frames frames'
  cases frames with
  | none =>
    cases frames'
    rfl
  | some tells =>
    cases frames' with
    | some tells' => exact congrArg some (inspection_of_tells tells tells')

theorem same_of_tells {event event' : Event} {json : Json} (tells : event.Tells json)
    (tells' : event'.Tells json) : event.Same event' := by
  have names : event.name = event'.name := by simpa using tells.name.symm.trans tells'.name
  cases event with
  | connected endpoint =>
    cases event' with
    | connected endpoint' =>
      exact .connected (by simpa [endpoint?] using tells.endpoint.symm.trans tells'.endpoint)
    | _ => simp [name] at names
  | initialState size frame =>
    cases event' with
    | initialState size' frame' =>
      cases content_of_tells tells tells' rfl rfl
      exact .same _
    | _ => simp [name] at names
  | update size frame =>
    cases event' with
    | update size' frame' =>
      cases content_of_tells tells tells' rfl rfl
      exact .same _
    | _ => simp [name] at names
  | idleTimeout milliseconds =>
    cases event' with
    | idleTimeout milliseconds' =>
      have times := tells.timeout.symm.trans tells'.timeout
      rw [nat_inj (Option.some.inj times)]
      exact .same _
    | _ => simp [name] at names
  | serverClosed code reason =>
    cases event' with
    | serverClosed code' reason' =>
      have codes : codeJson code = codeJson code' :=
        Option.some.inj (tells.code.symm.trans tells'.code)
      have reasons : reason = reason' := by
        simpa [closing?] using tells.message.symm.trans tells'.message
      rw [codeJson_inj codes, reasons]
      exact .same _
    | _ => simp [name] at names
  | waiting | disconnecting | stopped =>
    cases event' <;> first | exact .same _ | simp [name] at names

end Event

theorem ending_of_tells {ending ending' : Ending} {json : Json} (tells : ending.Tells json)
    (tells' : ending'.Tells json) : ending = ending' := by
  have reasons : ending.reason = ending'.reason := by
    simpa using tells.reason.symm.trans tells'.reason
  cases ending with
  | serverClosed code text =>
    cases ending' with
    | serverClosed code' text' =>
      have codes : Event.codeJson code = Event.codeJson code' :=
        Option.some.inj (tells.code.symm.trans tells'.code)
      have texts : text = text' := by
        simpa [Ending.closing?] using tells.message.symm.trans tells'.message
      rw [codeJson_inj codes, texts]
    | _ => simp [Ending.reason] at reasons
  | idleTimeout | interrupted =>
    cases ending' <;> first | rfl | simp [Ending.reason] at reasons

/-- The reports are the same, where URLs are compared in their text form. -/
structure Report.Same (report report' : Report) : Prop where
  endpoint : report.endpoint.text = report'.endpoint.text
  initial : report.initial = report'.initial
  updates : report.updates = report'.updates
  ending : report.ending = report'.ending

theorem Report.same_of_tells {report report' : Report} {json : Json} (tells : report.Tells json)
    (tells' : report'.Tells json) : report.Same report' := by
  constructor
  case endpoint => simpa using tells.endpoint.symm.trans tells'.endpoint
  case initial =>
    exact elim_nat_inj (Option.some.inj (tells.initial.symm.trans tells'.initial))
  case updates =>
    have updates := Option.some.inj (tells.updates.symm.trans tells'.updates)
    refine List.map_injective_iff.mpr (fun one other equal => nat_inj equal) ?_
    simpa using updates
  case ending =>
    obtain ⟨shown, present, ending⟩ := tells.ending
    obtain ⟨shown', present', ending'⟩ := tells'.ending
    rw [present] at present'
    cases present'
    exact ending_of_tells ending ending'

end SyncProbe
