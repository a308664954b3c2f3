import SyncProbe.Proofs.Frame.Layout

/-!
# What more bytes change

A connection may bring a message in pieces, so it matters what the bytes so far already settle. A
frame that has been read stays the same whatever comes behind it. Some errors are final. The others
only say that bytes are missing, and there are bytes that go on to a frame.

Results:
1. `decode_append`, `decode_append_of_isFinal`: a frame and a final error stay.
2. `decode_append_truncated`: bytes that are missing from a payload, counted.
3. `exists_completion`: bytes that end before the payload go on to a frame.
4. `decode_extension`: all of these, and that no part of a frame is a frame.
-/

namespace SyncProbe

open Varint (Spells)

namespace DecodeError

/-- Whether the error stays, whatever bytes come behind. -/
def isFinal : DecodeError → Bool
  | unknownKind _ | length .overflow | invalidUtf8 => true
  | empty | length .empty | length .incomplete | truncated _ _ => false

/-- Whether the bytes end before the payload of a frame starts. -/
def isEarly : DecodeError → Bool
  | empty | length .empty | length .incomplete => true
  | unknownKind _ | length .overflow | truncated _ _ | invalidUtf8 => false

end DecodeError

namespace Varint

/-! ## Integers -/

theorem overflow_append {data : Bytes} (fails : Fails data .overflow) (more : Bytes) :
    Fails (data ++ more) .overflow := by
  obtain ⟨initial, fifth, rest, rfl, full, high, large⟩ := fails
  refine ⟨initial, fifth, rest ++ more, ?_, full, high, large⟩
  rw [List.append_assoc, List.cons_append]

/-- Bytes that all go on are a spelling with a zero byte behind them. -/
theorem exists_spells_append {data : Bytes} {error : Error} (fails : Fails data error)
    (early : error ≠ .overflow) : ∃ number, Spells (data ++ [0]) number := by
  have unfinished : data.length ≤ maxLength - 1 ∧ ∀ byte ∈ data, 0x80 ≤ byte := by
    cases error with
    | overflow => exact absurd rfl early
    | incomplete => exact ⟨Nat.le_sub_one_of_lt fails.2.1, fails.2.2⟩
    | empty =>
      have none : data = [] := fails
      subst none
      exact ⟨Nat.zero_le _, fun byte member => absurd member List.not_mem_nil⟩
  exact exists_spells ⟨data, 0, rfl, unfinished.2, by decide, unfinished.1, fun _ => by decide⟩

end Varint

namespace Frame

/-! ## Frames and final errors -/

/-- What comes behind a frame is no part of it. -/
theorem describes_rest {layout : Layout} {frame : Frame} (describes : layout.Describes frame)
    (rest : Bytes) : { layout with rest }.Describes frame := by
  cases describes with
  | syncStep1 declares => exact .syncStep1 declares
  | syncStep2 declares => exact .syncStep2 declares
  | removed spells declares => exact .removed spells declares
  | present spells some declares => exact .present spells some declares

theorem bytes_append (layout : Layout) (more : Bytes) :
    layout.bytes ++ more = { layout with rest := layout.rest ++ more }.bytes := by
  simp only [Layout.bytes, List.cons_append, List.append_assoc]

theorem decode_append {data rest : Bytes} {frame : Frame} (read : decode data = .ok (frame, rest))
    (more : Bytes) : decode (data ++ more) = .ok (frame, rest ++ more) := by
  obtain ⟨layout, describes, rfl, rfl⟩ := decode_eq_ok_iff.mp read
  rw [bytes_append]
  exact decode_of_describes (describes_rest describes _)

theorem malformed_append {data : Bytes} {error : DecodeError} (malformed : Malformed data error)
    (final : error.isFinal) (more : Bytes) : Malformed (data ++ more) error := by
  cases malformed with
  | empty | truncated => cases final
  | unknownKind large => exact .unknownKind large
  | @client body error fails =>
    cases error with
    | empty | incomplete => cases final
    | overflow => exact .client (Varint.overflow_append fails more)
  | @length kind client body error field fails =>
    cases error with
    | empty | incomplete => cases final
    | overflow =>
      rw [List.cons_append, List.append_assoc]
      exact .length field (Varint.overflow_append fails more)
  | invalidUtf8 spells declares invalid =>
    simp only [List.cons_append, List.append_assoc]
    exact .invalidUtf8 spells declares invalid

theorem decode_append_of_isFinal {data : Bytes} {error : DecodeError}
    (refused : decode data = .error error) (final : error.isFinal) (more : Bytes) :
    decode (data ++ more) = .error error :=
  decode_of_malformed (malformed_append (decode_eq_error_iff.mp refused) final more)

/-! ## Payloads -/

/-- Behind the tag, the client and the length of a frame, every payload of that length is the
payload of a frame, unless it is to be text and is not. -/
theorem decode_payload {kind : FrameKind} {client length payload : Bytes}
    (field : ClientField kind client) (declares : Declares length payload) (rest : Bytes) :
    (∃ frame, decode (kind.tag :: (client ++ (length ++ (payload ++ rest)))) = .ok (frame, rest)) ∨
      decode (kind.tag :: (client ++ (length ++ (payload ++ rest)))) = .error .invalidUtf8 ∧
        ∀ state, payload ≠ Utf8.encode state := by
  cases kind with
  | syncStep1 =>
    cases field
    exact Or.inl ⟨_, decode_of_describes (.syncStep1 declares)⟩
  | syncStep2 =>
    cases field
    exact Or.inl ⟨_, decode_of_describes (.syncStep2 declares)⟩
  | awareness =>
    obtain ⟨clientId, spells⟩ := field
    rcases state_or_invalid payload with rfl | ⟨state, some, rfl⟩ | invalid
    · exact Or.inl ⟨_, decode_of_describes (.removed spells declares)⟩
    · exact Or.inl ⟨_, decode_of_describes (.present spells some declares)⟩
    · exact Or.inr ⟨decode_of_malformed (.invalidUtf8 spells declares invalid), invalid⟩

/-- A payload that is cut short stays so until all its bytes are there. -/
theorem decode_append_truncated {data : Bytes} {expected actual : Nat}
    (refused : decode data = .error (.truncated expected actual)) :
    actual < expected ∧ ∀ more : Bytes,
      (more.length < expected - actual →
        decode (data ++ more) = .error (.truncated expected (actual + more.length))) ∧
      (expected - actual ≤ more.length →
        (∃ frame rest, decode (data ++ more) = .ok (frame, rest)) ∨
          decode (data ++ more) = .error .invalidUtf8) := by
  cases decode_eq_error_iff.mp refused with
  | @truncated kind client length body number field spells short =>
    refine ⟨short, fun more => ?_⟩
    simp only [List.cons_append, List.append_assoc]
    rw [← List.length_append]
    constructor
    · intro missing
      have short' : (body ++ more).length < number.toNat := by
        rw [List.length_append]
        omega
      exact decode_of_malformed (.truncated field spells short')
    · intro enough
      have whole : number.toNat = ((body ++ more).take number.toNat).length := by
        rw [List.length_take, List.length_append]
        omega
      have read := decode_payload field ⟨number, spells, whole⟩ ((body ++ more).drop number.toNat)
      rw [List.take_append_drop] at read
      rcases read with ⟨frame, read⟩ | ⟨refused, _⟩
      · exact Or.inl ⟨frame, _, read⟩
      · exact Or.inr refused

/-! ## Bytes that go on to a frame -/

theorem exists_state (size : Nat) : ∃ state, (Utf8.encode state).length = size := by
  induction size with
  | zero => exact ⟨"", rfl⟩
  | succ size ih =>
    obtain ⟨state, same⟩ := ih
    refine ⟨state ++ "a", ?_⟩
    show (state ++ "a").toByteArray.data.toList.length = size + 1
    rw [String.toByteArray_append, ByteArray.data_append, Array.toList_append, List.length_append]
    exact congrArg (· + 1) same

/-- A tag, a client and a length go on to a frame. -/
theorem exists_payload {kind : FrameKind} {client length : Bytes} {number : UInt32}
    (field : ClientField kind client) (spells : Spells length number) :
    ∃ more frame, decode (kind.tag :: (client ++ (length ++ more))) = .ok (frame, []) := by
  obtain ⟨state, size⟩ := exists_state number.toNat
  rcases decode_payload field ⟨number, spells, size.symm⟩ [] with ⟨frame, read⟩ | ⟨_, invalid⟩
  · exact ⟨_, frame, read⟩
  · exact absurd rfl (invalid state)

theorem exists_completion {data : Bytes} {error : DecodeError}
    (refused : decode data = .error error) (early : error.isEarly) :
    ∃ more frame rest, decode (data ++ more) = .ok (frame, rest) := by
  cases decode_eq_error_iff.mp refused with
  | unknownKind | truncated | invalidUtf8 => cases early
  | empty => exact ⟨[0, 0], .syncStep1 [], [], rfl⟩
  | @client body error fails =>
    have unfinished : error ≠ .overflow := by
      rintro rfl
      cases early
    -- The client is spelled to its end, and the frame has no payload.
    obtain ⟨clientId, spells⟩ := Varint.exists_spells_append fails unfinished
    have field : ClientField .awareness (body ++ [0]) := ⟨clientId, spells⟩
    obtain ⟨more, frame, read⟩ := exists_payload field (Varint.spells_encode 0)
    refine ⟨[0] ++ (Varint.encode 0 ++ more), frame, [], ?_⟩
    rw [List.cons_append, ← List.append_assoc body]
    exact read
  | @length kind client body error field fails =>
    have unfinished : error ≠ .overflow := by
      rintro rfl
      cases early
    obtain ⟨number, spells⟩ := Varint.exists_spells_append fails unfinished
    obtain ⟨more, frame, read⟩ := exists_payload field spells
    refine ⟨[0] ++ more, frame, [], ?_⟩
    rw [List.cons_append, List.append_assoc, ← List.append_assoc body]
    exact read

/-! ## No part of a frame is a frame -/

/-- A part of a frame's bytes lacks bytes, and that is all that is wrong with it. -/
theorem decode_of_isPrefix {data rest part : Bytes} {frame : Frame}
    (read : decode data = .ok (frame, rest)) (starts : part <+: data)
    (short : part.length < data.length - rest.length) :
    ∃ error, decode part = .error error ∧ error.isFinal = false := by
  obtain ⟨behind, rfl⟩ := starts
  cases found : decode part with
  | ok pair =>
    -- A frame in the part would be the frame of the whole, with all bytes behind it left.
    obtain ⟨other, left⟩ := pair
    have whole := decode_append found behind
    rw [read] at whole
    cases whole
    simp only [List.length_append] at short
    omega
  | error error =>
    refine ⟨error, rfl, Bool.eq_false_iff.mpr fun final => ?_⟩
    have whole := decode_append_of_isFinal found final behind
    rw [read] at whole
    cases whole

/-- A frame stays whatever bytes come behind it, and no part of its bytes holds a frame or gives a
final error. Final errors stay. A payload that is cut short lacks as many bytes as its error tells.
Bytes that end before the payload go on to a frame. -/
theorem decode_extension (data : Bytes) :
    (∀ frame rest, decode data = .ok (frame, rest) →
      (∀ more, decode (data ++ more) = .ok (frame, rest ++ more)) ∧
      ∀ part, part <+: data → part.length < data.length - rest.length →
        ∃ error, decode part = .error error ∧ error.isFinal = false) ∧
    (∀ error, decode data = .error error → error.isFinal →
      ∀ more, decode (data ++ more) = .error error) ∧
    (∀ expected actual, decode data = .error (.truncated expected actual) →
      actual < expected ∧ ∀ more : Bytes,
        (more.length < expected - actual →
          decode (data ++ more) = .error (.truncated expected (actual + more.length))) ∧
        (expected - actual ≤ more.length →
          (∃ frame rest, decode (data ++ more) = .ok (frame, rest)) ∨
            decode (data ++ more) = .error .invalidUtf8)) ∧
    (∀ error, decode data = .error error → error.isEarly →
      ∃ more frame rest, decode (data ++ more) = .ok (frame, rest)) := by
  refine ⟨?_, ?_, ?_, ?_⟩
  · intro frame rest read
    exact ⟨decode_append read, fun part => decode_of_isPrefix read⟩
  · intro error
    exact decode_append_of_isFinal
  · intro expected actual
    exact decode_append_truncated
  · intro error
    exact exists_completion

/-- A state that is cut inside a character lacks a byte. What comes next completes the character or
breaks it, and either is final. -/
theorem decode_extension_cutState :
    decode [2, 1, 2, 0xC3] = .error (.truncated 2 1) ∧
      (∀ more : Bytes, 1 ≤ more.length →
        (∃ frame rest, decode ([2, 1, 2, 0xC3] ++ more) = .ok (frame, rest)) ∨
          decode ([2, 1, 2, 0xC3] ++ more) = .error .invalidUtf8) ∧
      (∀ more, decode ([2, 1, 2, 0xC3, 0xA9] ++ more) = .ok (.awareness 1 (some "é"), more)) ∧
      ∀ more, decode ([2, 1, 2, 0xC3, 0x41] ++ more) = .error .invalidUtf8 := by
  have cut : decode [2, 1, 2, 0xC3] = .error (.truncated 2 1) := rfl
  have whole : decode [2, 1, 2, 0xC3, 0xA9] = .ok (.awareness 1 (some "é"), []) := rfl
  have broken : decode [2, 1, 2, 0xC3, 0x41] = .error .invalidUtf8 := rfl
  obtain ⟨_, counted⟩ := (decode_extension [2, 1, 2, 0xC3]).2.2.1 _ _ cut
  exact ⟨cut, fun more enough => (counted more).2 enough,
    ((decode_extension [2, 1, 2, 0xC3, 0xA9]).1 _ _ whole).1,
    (decode_extension [2, 1, 2, 0xC3, 0x41]).2.1 _ broken rfl⟩

end Frame

end SyncProbe
