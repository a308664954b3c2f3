import SyncProbe.Proofs.Frame.Layout
import SyncProbe.Proofs.Varint.Words

/-!
# Frames cut out of their bytes

`Frame.slice` reads a frame by position: integers tell how many bytes they take, and every part is
cut off at such a count, or at a length that the frame declares. A cut past the end of the bytes
gives nothing at all.

Results:
1. `slice_eq_decode`: no cut is past the end, and what is read is what `decode` reads, with the
   number of the bytes behind the frame.
2. `decode_classifies`: which byte strings are read as which frame, and which error the others get.
-/

namespace SyncProbe.Frame

/-- Cuts bytes in two, if the position is within them. -/
def cut? (position : Nat) (bytes : Bytes) : Option (Bytes × Bytes) :=
  if position ≤ bytes.length then some (bytes.splitAt position) else none

/-- Cuts a payload off behind its length. -/
def slicePayload (body : Bytes) : Option (Except DecodeError (Bytes × Bytes)) :=
  match Varint.measure body with
  | .error error => some (.error (.length error))
  | .ok (declared, taken) => do
    let (_, rest) ← cut? taken body
    let expected := declared.toNat
    if rest.length < expected then return .error (.truncated expected rest.length)
    else return .ok (← cut? expected rest)

/-- Cuts a frame off the front, and tells how many bytes it leaves. -/
def slice : Bytes → Option (Except DecodeError (Frame × Nat))
  | [] => some (.error .empty)
  | tag :: body =>
    match FrameKind.ofTag? tag with
    | none => some (.error (.unknownKind tag))
    | some .syncStep1 => do
      let found ← slicePayload body
      return found.map fun (stateVector, rest) => (syncStep1 stateVector, rest.length)
    | some .syncStep2 => do
      let found ← slicePayload body
      return found.map fun (update, rest) => (syncStep2 update, rest.length)
    | some .awareness =>
      match Varint.measure body with
      | .error error => some (.error (.length error))
      | .ok (clientId, taken) => do
        let (_, body) ← cut? taken body
        match ← slicePayload body with
        | .error error => return .error error
        | .ok (payload, rest) =>
          return (readState payload).map fun state => (awareness clientId state, rest.length)

/-! ## No cut is past the end -/

theorem cut?_append (bytes rest : Bytes) :
    cut? bytes.length (bytes ++ rest) = some (bytes, rest) := by
  rw [cut?, if_pos (by simp), List.splitAt_eq, List.take_left, List.drop_left]

theorem slicePayload_eq (body : Bytes) : slicePayload body = some (readPayload body) := by
  rcases payload_or_fails body with ⟨length, payload, rest, declares, rfl⟩ |
      ⟨length, number, rest, spells, short, rfl⟩ | ⟨error, fails⟩
  · obtain ⟨number, spells, same⟩ := declares
    rw [readPayload_append ⟨number, spells, same⟩]
    simp only [slicePayload, Varint.measure_append spells, cut?_append]
    show (if (payload ++ rest).length < number.toNat then _ else _) = _
    rw [same, if_neg (by simp), cut?_append]
    rfl
  · rw [readPayload_truncated spells short]
    simp only [slicePayload, Varint.measure_append spells, cut?_append]
    exact if_pos short
  · rw [readPayload_of_fails fails]
    simp only [slicePayload, Varint.measure_of_fails fails]

theorem slice_eq_decode (data : Bytes) :
    slice data = some ((decode data).map fun read => (read.1, read.2.length)) := by
  cases data with
  | nil => rfl
  | cons tag body =>
    rcases tag_or_large tag with ⟨kind, rfl⟩ | large
    · cases kind with
      | syncStep1 | syncStep2 =>
        simp only [slice, decode, ofTag?_tag, slicePayload_eq]
        cases readPayload body <;> rfl
      | awareness =>
        rcases Varint.spells_or_fails body with ⟨client, clientId, body, spells, rfl⟩ |
            ⟨error, fails⟩
        · simp only [slice, decode, ofTag?_tag, readLength_append spells,
            Varint.measure_append spells, cut?_append]
          show (slicePayload body >>= _) = some (Except.map _ (readPayload body >>= _))
          rw [slicePayload_eq]
          cases readPayload body with
          | error error => rfl
          | ok found =>
            show some (Except.map _ (readState found.1)) =
              some (Except.map _ (readState found.1 >>= _))
            cases readState found.1 <;> rfl
        · simp only [slice, decode, ofTag?_tag, readLength_of_fails fails,
            Varint.measure_of_fails fails]
          rfl
    · simp only [slice, decode, ofTag?_of_large large]
      rfl

/-- A byte string is read as a frame exactly if it has a layout of that frame, and then it has no
other one. Every other byte string is malformed, and gets the error of the first stage that fails.
No stage cuts past the end of the bytes. -/
theorem decode_classifies (data : Bytes) :
    (∀ frame rest, decode data = .ok (frame, rest) ↔
      ∃ layout : Layout, layout.Describes frame ∧ layout.bytes = data ∧ layout.rest = rest) ∧
    (∀ (layout layout' : Layout) (frame frame' : Frame),
      layout.Describes frame ∧ layout.bytes = data →
      layout'.Describes frame' ∧ layout'.bytes = data → layout = layout' ∧ frame = frame') ∧
    (∀ error, decode data = .error error ↔ Malformed data error) ∧
    slice data = some ((decode data).map fun read => (read.1, read.2.length)) := by
  refine ⟨fun frame rest => decode_eq_ok_iff, ?_, fun error => decode_eq_error_iff,
    slice_eq_decode data⟩
  rintro layout layout' frame frame' ⟨describes, same⟩ ⟨describes', same'⟩
  exact layout_unique describes describes' (same.trans same'.symm)

/-- Bytes that are missing come before text that is not valid. -/
example : decode [2, 1, 5, 0xFF] = .error (.truncated 5 1) := by
  rfl

end SyncProbe.Frame
