import SyncProbe.Proofs.Frame.Canonical
import SyncProbe.Proofs.Frame.Wording
import SyncProbe.Proofs.Varint.Buffer

/-!
# Every byte of a message is counted

A summary gives two numbers of bytes, the payload's and that of what follows it. Both are counted
anew from the frame that was read. With the tag, and with the bytes that the integers of the header
take as they are spelled, they make up the whole message. Of a message that was written the summary
shows no more than the kind, the client and the two numbers.

Results:
1. `take_header`: the integers before a payload, with the bytes that each of them takes.
2. `length_bytes_eq`: the parts of a message that starts with a frame, counted.
3. `inspect_written_append`: the summary of a frame that is written before other bytes.
4. `inspect_accounts`: all of these, for every message and every frame.
-/

namespace SyncProbe

open Varint (Spells measureNext measureNext_append)

/-- How many integers stand between the tag and the payload of a frame: the payload's length, and
before it the client where the kind has one. -/
def FrameKind.integers : FrameKind → Nat
  | .awareness => 2
  | .syncStep1 | .syncStep2 => 1

namespace Frame

/-- The client that a frame speaks of. -/
def clientId? : Frame → Option UInt32
  | awareness clientId _ => some clientId
  | syncStep1 _ | syncStep2 _ => none

/-! ## The header -/

variable {layout : Layout} {frame : Frame}

theorem measureNext_length {length payload : Bytes} (declares : Declares length payload)
    (rest : Bytes) :
    measureNext (length ++ rest) = .ok ((UInt32.ofNat payload.length, length.length), rest) := by
  obtain ⟨number, spells, same⟩ := declares
  rw [measureNext_append spells, ← same, UInt32.ofNat_toNat]

/-- The integers before the payload of a frame, each with the bytes that it takes: the client, if
there is one, and the payload's length. -/
def Layout.header (layout : Layout) (frame : Frame) : List (UInt32 × Nat) :=
  frame.clientId?.toList.map (fun clientId => (clientId, layout.client.length)) ++
    [(UInt32.ofNat frame.payload.length, layout.length.length)]

/-- The integers are read in as many bytes as spell them, however many these are. -/
theorem take_header (describes : layout.Describes frame) (rest : Bytes) :
    Stream.take measureNext frame.kind.integers (layout.client ++ (layout.length ++ rest)) =
      .ok (layout.header frame, rest) := by
  have length := measureNext_length (declares_of_describes describes) rest
  cases describes with
  | syncStep1 | syncStep2 =>
    rw [List.nil_append, kind, FrameKind.integers, Stream.take, length]
    rfl
  | removed spells | present spells =>
    rw [kind, FrameKind.integers, Stream.take, measureNext_append spells]
    show (Stream.take measureNext 1 _ >>= _) = _
    rw [Stream.take, length]
    rfl

theorem numbers_header (describes : layout.Describes frame) :
    (layout.header frame).map (fun read => read.1.toNat) =
      frame.clientId?.toList.map UInt32.toNat ++ [frame.payload.length] := by
  have length : (UInt32.ofNat frame.payload.length).toNat = frame.payload.length :=
    UInt32.toNat_ofNat_of_lt' (small_of_describes describes)
  rw [Layout.header, List.map_append, List.map_map, List.map_singleton, length]
  rfl

theorem sum_header (describes : layout.Describes frame) :
    ((layout.header frame).map Prod.snd).sum = layout.client.length + layout.length.length := by
  cases describes <;> simp [Layout.header, clientId?]

theorem length_bytes_eq (describes : layout.Describes frame) :
    layout.bytes.length = 1 + (layout.client.length + layout.length.length) +
      frame.payload.length + layout.rest.length := by
  rw [payload_of_describes describes]
  simp only [Layout.bytes, List.length_cons, List.length_append]
  omega

end Frame

namespace Summary

/-! ## What a summary shows of a frame -/

/-- The summary of a frame of a kind and a client, with so many bytes of payload and so many behind
it. A client without a payload is removed. -/
def ofLengths (kind : FrameKind) (clientId : Option UInt32) (payload trailing : Nat) : Summary where
  kind := kind
  payloadLength := payload
  trailingLength := trailing
  clientId := clientId
  removed := clientId.map fun _ => payload = 0

theorem ofLengths_inj {kind kind' : FrameKind} {clientId clientId' : Option UInt32}
    {payload payload' trailing trailing' : Nat} :
    ofLengths kind clientId payload trailing = ofLengths kind' clientId' payload' trailing' ↔
      kind = kind' ∧ clientId = clientId' ∧ payload = payload' ∧ trailing = trailing' := by
  constructor
  · intro same
    exact ⟨congrArg Summary.kind same, congrArg Summary.clientId same,
      congrArg payloadLength same, congrArg trailingLength same⟩
  · rintro ⟨rfl, rfl, rfl, rfl⟩
    rfl

/-- An empty state counts as none, which is what it reads back as. -/
theorem ofFrame_normal (frame : Frame) (trailing : Nat) :
    ofFrame frame.normal trailing =
      ofLengths frame.kind frame.clientId? frame.payload.length trailing := by
  cases frame with
  | syncStep1 | syncStep2 => rfl
  | awareness clientId state =>
    cases state with
    | none => rfl
    | some state =>
      by_cases empty : state = ""
      · subst empty
        rfl
      · have filled : (Utf8.encode state).length ≠ 0 := by
          simpa using Frame.encode_ne_nil empty
        simp [Frame.normal, if_neg empty, ofFrame, ofLengths, Frame.kind, Frame.payload,
          Frame.clientId?, filled]

theorem inspect_written_append {frame : Frame} (small : frame.payload.length < 2 ^ 32)
    (tail : Bytes) :
    inspect (frame.written ++ tail) =
      .ok (ofLengths frame.kind frame.clientId? frame.payload.length tail.length) := by
  rw [inspect, Frame.decode_written_append small]
  exact congrArg Except.ok (ofFrame_normal frame tail.length)

/-! ## Messages -/

theorem inspect_eq_error_iff {data : Bytes} {error : DecodeError} :
    inspect data = .error error ↔ Frame.decode data = .error error := by
  unfold inspect
  cases Frame.decode data with
  | error other => constructor <;> rintro ⟨⟩ <;> rfl
  | ok read => exact iff_of_false nofun nofun

/-- The bytes of a message are the tag, the bytes of the header's integers, the payload and the
bytes behind it. The integers are the client and the length that the summary shows. -/
theorem length_of_inspect {data : Bytes} {summary : Summary}
    (inspects : inspect data = .ok summary) :
    ∃ header rest, Stream.take measureNext summary.kind.integers data.tail = .ok (header, rest) ∧
      header.map (fun read => read.1.toNat) =
        summary.clientId.toList.map UInt32.toNat ++ [summary.payloadLength] ∧
      data.length = 1 + (header.map Prod.snd).sum + summary.payloadLength +
        summary.trailingLength := by
  obtain ⟨frame, rest, decodes, rfl⟩ := inspect_eq_ok_iff.mp inspects
  obtain ⟨layout, describes, rfl, rfl⟩ := Frame.decode_eq_ok_iff.mp decodes
  -- What stands behind the header is the payload and the rest.
  refine ⟨layout.header frame, _, Frame.take_header describes (layout.payload ++ layout.rest), ?_,
    ?_⟩
  · rw [Frame.numbers_header describes]
    cases frame <;> rfl
  · rw [Frame.sum_header describes]
    exact Frame.length_bytes_eq describes

theorem fields_of_inspected {summary : Summary} (inspected : summary.Inspected) :
    (summary.clientId.isSome ↔ summary.kind = .awareness) ∧
      (summary.removed.isSome ↔ summary.kind = .awareness) ∧
      (summary.removed = some true ↔ summary.kind = .awareness ∧ summary.payloadLength = 0) := by
  cases inspected with
  | sync other =>
    exact ⟨iff_of_false nofun other, iff_of_false nofun other,
      iff_of_false nofun fun both => other both.1⟩
  | awareness removal =>
    exact ⟨iff_of_true rfl rfl, iff_of_true rfl rfl,
      Option.some_inj.trans (removal.trans (and_iff_right rfl).symm)⟩

/-- A message has a summary unless it starts with no frame, and then the error is that of reading.
The summary accounts for all bytes: one is the tag, and the others belong to the header's integers,
to the payload, and to what follows it. A client and its removal are shown exactly if the frame
speaks of presence, and a removal is a frame of this kind without a payload. Of a frame that is
written before other bytes the summary shows the kind, the client and both lengths, and nothing
else: two such messages have one summary exactly if these are the same. -/
theorem inspect_accounts (data : Bytes) :
    (∀ error, inspect data = .error error ↔ Frame.decode data = .error error) ∧
    (∀ summary, inspect data = .ok summary →
      (∃ header rest,
        Stream.take measureNext summary.kind.integers data.tail = .ok (header, rest) ∧
        header.map (fun read => read.1.toNat) =
          summary.clientId.toList.map UInt32.toNat ++ [summary.payloadLength] ∧
        data.length = 1 + (header.map Prod.snd).sum + summary.payloadLength +
          summary.trailingLength) ∧
      (summary.clientId.isSome ↔ summary.kind = .awareness) ∧
      (summary.removed.isSome ↔ summary.kind = .awareness) ∧
      (summary.removed = some true ↔ summary.kind = .awareness ∧ summary.payloadLength = 0)) ∧
    (∀ (frame : Frame) (tail : Bytes), frame.payload.length < 2 ^ 32 →
      ∃ bytes, frame.encode = .ok bytes ∧
        inspect (bytes ++ tail) =
          .ok (ofLengths frame.kind frame.clientId? frame.payload.length tail.length) ∧
        ∀ (frame' : Frame) (bytes' tail' : Bytes), frame'.encode = .ok bytes' →
          (inspect (bytes ++ tail) = inspect (bytes' ++ tail') ↔
            frame.kind = frame'.kind ∧ frame.clientId? = frame'.clientId? ∧
              frame.payload.length = frame'.payload.length ∧ tail.length = tail'.length)) := by
  refine ⟨fun error => inspect_eq_error_iff, fun summary inspects =>
    ⟨length_of_inspect inspects, fields_of_inspected (inspected_of_inspect inspects)⟩, ?_⟩
  intro frame tail small
  refine ⟨frame.written, Frame.encode_of_small small, inspect_written_append small tail, ?_⟩
  intro frame' bytes' tail' wrote
  obtain ⟨small', rfl⟩ := Frame.encode_eq_ok_iff.mp wrote
  rw [inspect_written_append small, inspect_written_append small', Except.ok.injEq]
  exact ofLengths_inj

/-- A removal whose integers take two bytes each where one is enough, and a byte behind it. -/
def longRemoval : Bytes := [2, 0x85, 0x00, 0x80, 0x00, 0xFF]

theorem inspect_accounts_longRemoval :
    inspect longRemoval = .ok ⟨.awareness, 0, 1, some 5, some true⟩ ∧
    (∃ header rest, Stream.take measureNext 2 longRemoval.tail = .ok (header, rest) ∧
      header.map (fun read => read.1.toNat) = [5, 0] ∧
      longRemoval.length = 1 + (header.map Prod.snd).sum + 0 + 1) ∧
    (Frame.awareness 300 (some "é")).payload.length < 2 ^ 32 ∧
    (Frame.awareness 300 (some "12")).encode = .ok [2, 0xAC, 0x02, 2, 0x31, 0x32] ∧
    ∃ bytes, (Frame.awareness 300 (some "é")).encode = .ok bytes ∧
      inspect (bytes ++ [0x80]) = inspect ([2, 0xAC, 0x02, 2, 0x31, 0x32] ++ [0]) := by
  have inspects : inspect longRemoval = .ok ⟨.awareness, 0, 1, some 5, some true⟩ := rfl
  have small : (Frame.awareness 300 (some "é")).payload.length < 2 ^ 32 := by decide
  have wrote : (Frame.awareness 300 (some "12")).encode = .ok [2, 0xAC, 0x02, 2, 0x31, 0x32] :=
    rfl
  obtain ⟨_, counts, shows⟩ := inspect_accounts longRemoval
  obtain ⟨bytes, wrote', _, same⟩ := shows _ [0x80] small
  exact ⟨inspects, (counts _ inspects).1, small, wrote, bytes, wrote',
    (same _ _ [0] wrote).mpr ⟨rfl, rfl, rfl, rfl⟩⟩

end Summary

end SyncProbe
