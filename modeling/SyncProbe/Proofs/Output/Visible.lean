import SyncProbe.Proofs.Output.Lines
import SyncProbe.Proofs.Url.Visible

/-!
# The probe's own words

Of all that a program writes for a person, one text is the server's: the reason of a close. The
words around it are the probe's own, with numbers and with the endpoint, and have no control.

Results:
1. `DecodeError.isVisible_message`, `Inspection.isVisible_text`: what is said of a message.
2. `WebSocket.Error.isVisible_message`, `ProbeError.isVisible_message`: what is said of a failure.
3. `Text.isLine_of_isVisible`, `Level.isLine_tag`: a text without controls stays on its line, and so
   does a tag.
-/

namespace SyncProbe

open Text (IsLine IsVisible isVisible_append isVisible_numeral)

/-! ## Messages -/

theorem Varint.Error.isVisible_message (error : Varint.Error) : IsVisible error.message := by
  cases error <;> decide +kernel

theorem DecodeError.isVisible_message (error : DecodeError) : IsVisible error.message := by
  cases error with
  | empty | invalidUtf8 => decide +kernel
  | length error => exact isVisible_append.mpr ⟨by decide, error.isVisible_message⟩
  | unknownKind | truncated =>
    unfold message
    simp +decide only [isVisible_append, isVisible_numeral]

theorem FrameKind.isVisible_name (kind : FrameKind) : IsVisible kind.name := by
  cases kind <;> decide +kernel

namespace Summary

theorem isVisible_clientText (summary : Summary) : IsVisible summary.clientText := by
  unfold clientText
  split
  · simp +decide only [isVisible_append, isVisible_numeral]
  · decide

theorem isVisible_removedText (summary : Summary) : IsVisible summary.removedText := by
  unfold removedText
  split <;> decide

theorem isVisible_trailingText (summary : Summary) : IsVisible summary.trailingText := by
  unfold trailingText
  split
  · simp +decide only [isVisible_append, isVisible_numeral]
  · decide

theorem isVisible_text (summary : Summary) : IsVisible summary.text := by
  have kind : IsVisible (toString summary.kind.name) := summary.kind.isVisible_name
  simp +decide only [text, isVisible_append, isVisible_numeral, kind, isVisible_clientText,
    isVisible_removedText, isVisible_trailingText]

end Summary

theorem Inspection.isVisible_text (frame : Inspection) : IsVisible frame.text := by
  cases frame with
  | frame summary => exact summary.isVisible_text
  | undecodable error =>
    exact isVisible_append.mpr ⟨by decide, error.isVisible_message⟩

/-! ## Failures -/

namespace WebSocket

theorem isVisible_statusText (status : Nat) : IsVisible (statusText status) := by
  have reasons : ∀ entry ∈ statusReasons, IsVisible entry.2 := by decide +kernel
  have reason :
      IsVisible (toString ((statusReasons.lookup status).getD "<unknown status code>")) := by
    cases found : statusReasons.lookup status with
    | none => decide +kernel
    | some reason =>
      obtain ⟨before, after, split, _⟩ := List.lookup_eq_some_iff.mp found
      exact reasons (status, reason) (by simp [split])
  simp +decide only [statusText, isVisible_append, isVisible_numeral, reason]

theorem Violation.isVisible_message (rule : Violation) : IsVisible rule.message := by
  cases rule with
  | head error => cases error <;> decide +kernel
  | expectedFragment kind => cases kind <;> decide +kernel
  | invalidOpcode =>
    unfold message
    simp +decide only [isVisible_append, isVisible_numeral]
  | _ => decide +kernel

theorem NetworkFailure.isVisible_message (failure : NetworkFailure) : IsVisible failure.message :=
  fun c inside => of_decide_eq_true (List.all_eq_true.mp failure.visible c inside)

theorem Error.isVisible_message (error : Error) : IsVisible error.message := by
  cases error with
  | network failure => exact isVisible_append.mpr ⟨by decide, failure.isVisible_message⟩
  | request error => cases error <;> decide +kernel
  | excess limit =>
    cases limit with
    | tooManyHeaders => decide +kernel
    | tooLong =>
      unfold message Excess.message
      simp +decide only [isVisible_append, isVisible_numeral]
  | violation rule => exact isVisible_append.mpr ⟨by decide, rule.isVisible_message⟩
  | status code => exact isVisible_append.mpr ⟨by decide, isVisible_statusText code⟩
  | utf8 | attack | invalidStatus => decide +kernel

end WebSocket

theorem LogFilter.Error.isVisible_message (error : LogFilter.Error) : IsVisible error.message := by
  cases error <;> decide +kernel

theorem ProbeError.isVisible_message {error : ProbeError}
    (visible : ∀ endpoint cause, error = .connect endpoint cause → IsVisible endpoint.text) :
    IsVisible error.message := by
  cases error with
  | connect endpoint cause =>
    have address := visible endpoint cause rfl
    unfold message
    simp +decide only [isVisible_append, address, cause.isVisible_message]
  | closedBeforeInitialState => decide +kernel
  | receive cause => exact isVisible_append.mpr ⟨by decide, cause.isVisible_message⟩

/-! ## Lines -/

theorem Text.isLine_of_isVisible {text : String} (visible : IsVisible text) : IsLine text := by
  intro c inside same
  have above := visible c inside
  rw [same] at above
  exact absurd above (by decide)

/-- A tag has controls for its colour, but stays on its line. -/
theorem Level.isLine_tag (level : Level) : IsLine level.tag :=
  Text.breaks_eq_zero_iff.mp (by cases level <;> decide +kernel)

end SyncProbe
