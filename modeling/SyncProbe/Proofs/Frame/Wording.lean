import SyncProbe.Frame.Summary
import SyncProbe.Proofs.Frame.Layout
import SyncProbe.Proofs.Text.Numerals

/-!
# What the words for a message tell

A person reads of a received message in words: its summary, or why it is no frame. The words leave
things out that a program gets, and numbers stand in the middle of them. Still no two inspections of
messages read the same, since a summary of a frame has only fields that belong together.

Results:
1. `DecodeError.message_inj`: the words for an error tell the error.
2. `Summary.inspected_of_inspect`, `Summary.text_inj`: the words for a summary tell the summary, if
   it comes from an inspection.
3. `Inspection.text_frame_ne_undecodable`, `Inspection.text_inj`: the words for an inspection tell
   the inspection.
-/

namespace SyncProbe

open Text (endsNumeral_append text_last_numeral_inj text_numeral_inj)

/-! ## Errors -/

theorem Varint.Error.message_inj {error error' : Varint.Error}
    (same : error.message = error'.message) : error = error' := by
  cases error <;> cases error' <;> first | rfl | simp [Varint.Error.message] at same

namespace DecodeError

/-- The letter that the message of an error starts with. -/
def initial : DecodeError → Char
  | .empty => 'e'
  | .unknownKind _ => 'u'
  | .length _ => 'i'
  | .truncated _ _ => 'f'
  | .invalidUtf8 => 'a'

theorem head?_message (error : DecodeError) :
    error.message.toList.head? = some error.initial := by
  cases error with
  | empty | invalidUtf8 => rfl
  | unknownKind tag =>
    show ("unknown message type " ++ tag.toNat.repr).toList.head? = _
    rw [String.toList_append]
    rfl
  | length error =>
    show ("invalid length prefix: " ++ error.message).toList.head? = _
    rw [String.toList_append]
    rfl
  | truncated expected actual =>
    show ("frame declares " ++ expected.repr ++ " payload bytes but carries " ++
      actual.repr).toList.head? = _
    rw [String.toList_append, String.toList_append, String.toList_append]
    rfl

theorem message_inj {error error' : DecodeError} (same : error.message = error'.message) :
    error = error' := by
  have initials : error.initial = error'.initial :=
    Option.some.inj (by rw [← head?_message, same, head?_message])
  cases error with
  | empty | invalidUtf8 => cases error' <;> first | rfl | cases initials
  | unknownKind tag =>
    cases error' with
    | unknownKind tag' =>
      have tags : tag.toNat = tag'.toNat := text_last_numeral_inj same
      rw [UInt8.toNat_inj.mp tags]
    | _ => cases initials
  | length cause =>
    cases error' with
    | length cause' => rw [Varint.Error.message_inj ((String.append_right_inj _).mp same)]
    | _ => cases initials
  | truncated expected actual =>
    cases error' with
    | truncated expected' actual' =>
      have texts : "frame declares " ++ expected.repr ++ (" payload bytes but carries " ++
          actual.repr) = "frame declares " ++ expected'.repr ++ (" payload bytes but carries " ++
          actual'.repr) := by
        rw [← String.append_assoc, ← String.append_assoc]
        exact same
      obtain ⟨rfl, rest⟩ := text_numeral_inj (endsNumeral_append rfl rfl _)
        (endsNumeral_append rfl rfl _) texts
      rw [text_last_numeral_inj rest]
    | _ => cases initials

end DecodeError

/-! ## Summaries -/

namespace Summary

/-- A summary as inspection gives it: an awareness frame has a client and may be a removal, which it
is exactly if nothing is in it. The other kinds have neither. -/
inductive Inspected : Summary → Prop
  | sync {kind : FrameKind} {payload trailing : Nat} :
      kind ≠ .awareness → Inspected ⟨kind, payload, trailing, none, none⟩
  | awareness {payload trailing : Nat} {clientId : UInt32} {removed : Bool} :
      (removed = true ↔ payload = 0) →
      Inspected ⟨.awareness, payload, trailing, some clientId, some removed⟩

/-- The part of a text behind the kind and the length of the payload. -/
def details (summary : Summary) : String :=
  summary.clientText ++ (summary.removedText ++ summary.trailingText)

theorem text_eq (summary : Summary) :
    summary.text = summary.kind.name ++ ", payload " ++ summary.payloadLength.repr ++
      (" bytes" ++ summary.details) := by
  show summary.kind.name ++ ", payload " ++ summary.payloadLength.repr ++ " bytes" ++
    summary.clientText ++ summary.removedText ++ summary.trailingText = _
  simp only [details, String.append_assoc]

theorem details_of_client {summary : Summary} {clientId : UInt32}
    (present : summary.clientId = some clientId) :
    summary.details =
      ", client " ++ clientId.toNat.repr ++ (summary.removedText ++ summary.trailingText) := by
  unfold details clientText
  rw [present]
  rfl

/-- The first letters of a summary, as many as tell the kinds apart. -/
def lead : FrameKind → List Char
  | .syncStep1 => ['s', 'y', 'n', 'c', '_', 's', 't', 'e', 'p', '1']
  | .syncStep2 => ['s', 'y', 'n', 'c', '_', 's', 't', 'e', 'p', '2']
  | .awareness => ['a', 'w', 'a', 'r', 'e', 'n', 'e', 's', 's', ',']

theorem take_text (summary : Summary) : summary.text.toList.take 10 = lead summary.kind := by
  rw [text_eq, String.toList_append, String.toList_append, String.toList_append]
  cases summary.kind <;> rfl

theorem kind_of_text {summary summary' : Summary} (same : summary.text = summary'.text) :
    summary.kind = summary'.kind := by
  have leads : lead summary.kind = lead summary'.kind := by
    rw [← take_text, same, take_text]
  cases first : summary.kind <;> cases second : summary'.kind <;> rw [first, second] at leads <;>
    first | rfl | cases leads

theorem endsNumeral_trailing (summary : Summary) :
    Text.EndsNumeral summary.trailingText.toList := by
  unfold trailingText
  split
  · show Text.EndsNumeral
      (", " ++ summary.trailingLength.repr ++ " trailing bytes").toList
    rw [String.append_assoc]
    exact endsNumeral_append rfl rfl _
  · exact nofun

theorem endsNumeral_removed (summary : Summary) :
    Text.EndsNumeral (summary.removedText ++ summary.trailingText).toList := by
  unfold removedText
  split
  · exact endsNumeral_append rfl rfl _
  · rw [String.empty_append]
    exact endsNumeral_trailing summary

theorem trailing_of_text {summary summary' : Summary}
    (same : summary.trailingText = summary'.trailingText) :
    summary.trailingLength = summary'.trailingLength := by
  unfold trailingText at same
  split at same <;> split at same
  · have texts : ", " ++ summary.trailingLength.repr ++ " trailing bytes" =
        ", " ++ summary'.trailingLength.repr ++ " trailing bytes" := same
    exact (text_numeral_inj (by decide) (by decide) texts).1
  · simp [String.append_eq_empty_iff] at same
  · simp [String.append_eq_empty_iff] at same
  · omega

/-- Two summaries that inspection gives are the same if they read the same. -/
theorem text_inj {summary summary' : Summary} (inspected : summary.Inspected)
    (inspected' : summary'.Inspected) (same : summary.text = summary'.text) :
    summary = summary' := by
  have kinds := kind_of_text same
  rw [text_eq, text_eq, kinds] at same
  obtain ⟨payloads, rest⟩ := text_numeral_inj (endsNumeral_append rfl rfl _)
    (endsNumeral_append rfl rfl _) same
  have details := (String.append_right_inj _).mp rest
  cases inspected with
  | sync other =>
    cases inspected' with
    | sync =>
      obtain rfl : _ = _ := kinds
      obtain rfl : _ = _ := payloads
      obtain rfl : _ = _ := trailing_of_text details
      rfl
    | awareness => exact absurd kinds other
  | awareness removal =>
    cases inspected' with
    | sync other => exact absurd kinds.symm other
    | awareness removal' =>
      obtain rfl : _ = _ := payloads
      obtain rfl := Bool.eq_iff_iff.mpr (removal.trans removal'.symm)
      rw [details_of_client rfl, details_of_client rfl] at details
      obtain ⟨clients, ends⟩ := text_numeral_inj (endsNumeral_removed _) (endsNumeral_removed _)
        details
      obtain rfl := UInt32.toNat_inj.mp clients
      obtain rfl : _ = _ := trailing_of_text ((String.append_right_inj _).mp ends)
      rfl

theorem inspect_eq_ok_iff {data : Bytes} {summary : Summary} :
    inspect data = .ok summary ↔
      ∃ frame rest, Frame.decode data = .ok (frame, rest) ∧
        summary = ofFrame frame rest.length := by
  unfold inspect
  constructor
  · intro inspects
    cases decodes : Frame.decode data with
    | error error =>
      rw [decodes] at inspects
      cases inspects
    | ok result =>
      rw [decodes] at inspects
      cases inspects
      exact ⟨result.1, result.2, rfl, rfl⟩
  · rintro ⟨frame, rest, decodes, rfl⟩
    rw [decodes]
    rfl

theorem inspected_of_inspect {data : Bytes} {summary : Summary}
    (inspects : inspect data = .ok summary) : summary.Inspected := by
  obtain ⟨frame, rest, decodes, rfl⟩ := inspect_eq_ok_iff.mp inspects
  obtain ⟨layout, describes, _⟩ := Frame.decode_eq_ok_iff.mp decodes
  cases describes with
  | syncStep1 | syncStep2 => exact .sync nofun
  | removed => exact .awareness (iff_of_true rfl rfl)
  | @present _ _ _ _ state _ some =>
    have filled : (Utf8.encode state).length ≠ 0 := by
      simpa using Frame.encode_ne_nil some
    exact .awareness (iff_of_false nofun filled)

end Summary

/-! ## Inspections -/

namespace Inspection

theorem ofBytes_cases (data : Bytes) :
    (∃ summary, ofBytes data = frame summary ∧ summary.Inspected) ∨
      ∃ error, ofBytes data = undecodable error := by
  unfold ofBytes
  cases inspects : Summary.inspect data with
  | ok summary => exact .inl ⟨summary, rfl, Summary.inspected_of_inspect inspects⟩
  | error error => exact .inr ⟨error, rfl⟩

/-- No summary reads like a message that could not be decoded. -/
theorem text_frame_ne_undecodable (summary : Summary) (error : DecodeError) :
    (frame summary).text ≠ (undecodable error).text := by
  intro same
  have leads : Summary.lead summary.kind = "not a y-we".toList := by
    rw [← Summary.take_text]
    show (frame summary).text.toList.take 10 = _
    rw [same]
    show ("not a y-websocket frame: " ++ error.message).toList.take 10 = _
    rw [String.toList_append]
    rfl
  cases kind : summary.kind <;> rw [kind] at leads <;> cases leads

/-- Two inspections are the same if they read the same. -/
theorem text_inj {data data' : Bytes} (same : (ofBytes data).text = (ofBytes data').text) :
    ofBytes data = ofBytes data' := by
  rcases ofBytes_cases data with ⟨summary, first, inspected⟩ | ⟨error, first⟩ <;>
    rcases ofBytes_cases data' with ⟨summary', second, inspected'⟩ | ⟨error', second⟩ <;>
      rw [first, second] at same ⊢
  · exact congrArg frame (Summary.text_inj inspected inspected' same)
  · exact absurd same (text_frame_ne_undecodable summary error')
  · exact absurd same.symm (text_frame_ne_undecodable summary' error)
  · exact congrArg undecodable (DecodeError.message_inj ((String.append_right_inj _).mp same))

end Inspection

end SyncProbe
