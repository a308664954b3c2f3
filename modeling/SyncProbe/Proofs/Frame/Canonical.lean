import SyncProbe.Proofs.Frame.RoundTrip
import SyncProbe.Proofs.Varint.Shortest

/-!
# Frames written again

A frame that is read may spell its client and its length with more bytes than these need. If it is
written again, both are spelled as shortly as they can be, and nothing else about it changes. So
there is one form of a frame that is written: it is what comes of every other form, and it comes of
itself.

Results:
1. `written_or_shorter`: a frame is written again as it was, if its header is minimal, and in fewer
   bytes otherwise.
2. `normal_of_describes`: a frame that was read comes back as it is.
3. `length_written_le`: frames that fill a byte string do not grow.
4. `reencode_canonical`: both, for a frame and for frames one after another.
-/

namespace SyncProbe.Frame

open Varint (Spells)

/-! ## One frame -/

/-- The bytes of the frame, without what comes behind it. -/
def Layout.piece (layout : Layout) : Bytes :=
  layout.kind.tag :: (layout.client ++ (layout.length ++ layout.payload))

/-- No integer of the header takes more bytes than it needs. -/
def Layout.Minimal (layout : Layout) : Prop :=
  (layout.kind = .awareness → Varint.Minimal layout.client) ∧ Varint.Minimal layout.length

theorem bytes_eq (layout : Layout) : layout.bytes = layout.piece ++ layout.rest := by
  simp only [Layout.bytes, Layout.piece, List.cons_append, List.append_assoc]

theorem take_bytes (layout : Layout) :
    layout.bytes.take (layout.bytes.length - layout.rest.length) = layout.piece := by
  rw [bytes_eq, List.length_append, Nat.add_sub_cancel, List.take_left]

variable {layout : Layout} {frame : Frame}

theorem kind_of_describes (describes : layout.Describes frame) : frame.kind = layout.kind := by
  cases describes <;> rfl

theorem payload_of_describes (describes : layout.Describes frame) :
    frame.payload = layout.payload := by
  cases describes <;> rfl

theorem small_of_describes (describes : layout.Describes frame) :
    frame.payload.length < 2 ^ 32 := by
  obtain ⟨number, _, same⟩ := declares_of_describes describes
  rw [payload_of_describes describes, ← same]
  exact number.toNat_lt

/-- A frame that was read has no empty state, and comes back as it is. -/
theorem normal_of_describes (describes : layout.Describes frame) : frame.normal = frame := by
  cases describes with
  | syncStep1 | syncStep2 | removed => rfl
  | present _ some => exact if_neg some

theorem client_or_shorter (describes : layout.Describes frame) :
    (frame.client = layout.client ∧ (layout.kind = .awareness → Varint.Minimal layout.client)) ∨
      (frame.client.length < layout.client.length ∧
        ¬ (layout.kind = .awareness → Varint.Minimal layout.client)) := by
  cases describes with
  | syncStep1 | syncStep2 => exact Or.inl ⟨rfl, nofun⟩
  | removed spells | present spells =>
    rcases Varint.encode_or_shorter spells with ⟨same, minimal⟩ | ⟨shorter, longer⟩
    · exact Or.inl ⟨same, fun _ => minimal⟩
    · exact Or.inr ⟨shorter, fun minimal => longer (minimal rfl)⟩

theorem length_or_shorter {length payload : Bytes} (declares : Declares length payload) :
    (Varint.encode (UInt32.ofNat payload.length) = length ∧ Varint.Minimal length) ∨
      ((Varint.encode (UInt32.ofNat payload.length)).length < length.length ∧
        ¬ Varint.Minimal length) := by
  obtain ⟨number, spells, same⟩ := declares
  rw [← same, UInt32.ofNat_toNat]
  exact Varint.encode_or_shorter spells

/-- A frame is written again as it was, or in fewer bytes if its header takes more than it needs. -/
theorem written_or_shorter (describes : layout.Describes frame) :
    (frame.written = layout.piece ∧ layout.Minimal) ∨
      (frame.written.length < layout.piece.length ∧ ¬ layout.Minimal) := by
  rw [written, Layout.piece, kind_of_describes describes, payload_of_describes describes]
  simp only [List.length_cons, List.length_append]
  rcases client_or_shorter describes with ⟨client, minimal⟩ | ⟨client, longer⟩ <;>
    rcases length_or_shorter (declares_of_describes describes) with
      ⟨length, minimal'⟩ | ⟨length, longer'⟩
  · exact Or.inl ⟨by rw [client, length], minimal, minimal'⟩
  · exact Or.inr ⟨by rw [client]; omega, fun both => longer' both.2⟩
  · exact Or.inr ⟨by rw [length]; omega, fun both => longer both.1⟩
  · exact Or.inr ⟨by omega, fun both => longer both.1⟩

theorem written_eq_iff (describes : layout.Describes frame) :
    frame.written = layout.piece ↔ layout.Minimal := by
  rcases written_or_shorter describes with ⟨same, minimal⟩ | ⟨shorter, longer⟩
  · exact iff_of_true same minimal
  · have other : frame.written ≠ layout.piece :=
      fun same => absurd (congrArg List.length same) (Nat.ne_of_lt shorter)
    exact iff_of_false other longer

theorem length_written_le_piece (describes : layout.Describes frame) :
    frame.written.length ≤ layout.piece.length := by
  rcases written_or_shorter describes with ⟨same, _⟩ | ⟨shorter, _⟩
  · exact Nat.le_of_eq (congrArg List.length same)
  · exact Nat.le_of_lt shorter

/-- A tag, and a length of at least one byte. -/
theorem two_le_length_piece (describes : layout.Describes frame) : 2 ≤ layout.piece.length := by
  obtain ⟨number, spells, _⟩ := declares_of_describes describes
  have some := List.length_pos_iff.mpr (Varint.groups_ne_nil spells.1)
  simp only [Layout.piece, List.length_cons, List.length_append]
  omega

theorem decode_written (describes : layout.Describes frame) :
    decode frame.written = .ok (frame, []) := by
  have read := decode_written_append (small_of_describes describes) []
  rwa [List.append_nil, normal_of_describes describes] at read

/-! ## Frames one after another -/

/-- A frame takes its own bytes off the front, and leaves the others. -/
theorem take_append_of_decode (data : Bytes) (frame : Frame) (rest : Bytes)
    (read : decode data = .ok (frame, rest)) :
    data.take (data.length - rest.length) ++ rest = data := by
  obtain ⟨layout, _, rfl, rfl⟩ := decode_eq_ok_iff.mp read
  rw [take_bytes, bytes_eq]

variable {data : Bytes} {items : List (Frame × Bytes)}

theorem two_le_of_mem_consumed (exhausts : Stream.Exhausts decode data items) :
    ∀ piece ∈ Stream.consumed data items, 2 ≤ piece.length := by
  induction exhausts with
  | done => exact fun piece among => absurd among List.not_mem_nil
  | next found _ ih =>
    obtain ⟨layout, describes, rfl, rfl⟩ := decode_eq_ok_iff.mp found
    intro piece among
    rw [Stream.consumed, take_bytes] at among
    rcases List.mem_cons.mp among with rfl | later
    · exact two_le_length_piece describes
    · exact ih piece later

theorem exists_describes (exhausts : Stream.Exhausts decode data items) :
    ∀ frame ∈ items.map Prod.fst, ∃ layout : Layout, layout.Describes frame := by
  induction exhausts with
  | done => exact fun frame among => absurd among List.not_mem_nil
  | next found _ ih =>
    obtain ⟨layout, describes, _⟩ := decode_eq_ok_iff.mp found
    intro frame among
    rcases List.mem_cons.mp among with rfl | later
    · exact ⟨layout, describes⟩
    · exact ih frame later

/-- Frames that fill a byte string do not grow when they are written again. -/
theorem length_written_le (exhausts : Stream.Exhausts decode data items) :
    ((items.map Prod.fst).flatMap written).length ≤ data.length := by
  induction exhausts with
  | done => exact Nat.le_refl 0
  | next found _ ih =>
    obtain ⟨layout, describes, rfl, rfl⟩ := decode_eq_ok_iff.mp found
    rw [List.map_cons, List.flatMap_cons, List.length_append, bytes_eq, List.length_append]
    exact Nat.add_le_add (length_written_le_piece describes) ih

/-- Frames that were read are read again in the form in which they are written. -/
theorem read_written (exhausts : Stream.Exhausts decode data items) :
    (Stream.read decode ((items.map Prod.fst).flatMap written)).values = items.map Prod.fst ∧
      (Stream.read decode ((items.map Prod.fst).flatMap written)).fault = none := by
  have back : ∀ frame ∈ items.map Prod.fst, ∀ rest,
      decode (frame.written ++ rest) = .ok (id frame, rest) := by
    intro frame among rest
    obtain ⟨layout, describes⟩ := exists_describes exhausts frame among
    have read := decode_written_append (small_of_describes describes) rest
    rwa [normal_of_describes describes] at read
  have again := Stream.read_flatMap shortens_decode back []
  rw [List.append_nil, Stream.read_nil, List.map_id] at again
  exact ⟨again.1.trans (List.append_nil _), again.2⟩

/-- A frame that was read can be written, and is read back as it is, with nothing behind it. That
takes no more bytes than it took before, and the same ones exactly if no integer of its header took
more than it needs. If frames fill a byte string, each of them takes at least two bytes of it, and
they take all of it. Written again one after another they are no longer, and they are read as the
same frames. -/
theorem reencode_canonical (data : Bytes) :
    (∀ frame rest, decode data = .ok (frame, rest) →
      ∃ bytes, frame.encode = .ok bytes ∧ decode bytes = .ok (frame, []) ∧
        bytes.length ≤ data.length - rest.length ∧
        ∃ layout : Layout, layout.Describes frame ∧ layout.bytes = data ∧ layout.rest = rest ∧
          (bytes = data.take (data.length - rest.length) ↔ layout.Minimal)) ∧
    ((Stream.read decode data).fault = none →
      (∀ piece ∈ Stream.consumed data (Stream.read decode data).items, 2 ≤ piece.length) ∧
      (Stream.consumed data (Stream.read decode data).items).flatten = data ∧
      ∃ pieces, (Stream.read decode data).values.mapM encode = .ok pieces ∧
        pieces.flatten.length ≤ data.length ∧
        (Stream.read decode pieces.flatten).values = (Stream.read decode data).values ∧
        (Stream.read decode pieces.flatten).fault = none) := by
  constructor
  · intro frame rest read
    obtain ⟨layout, describes, rfl, rfl⟩ := decode_eq_ok_iff.mp read
    refine ⟨frame.written, encode_of_small (small_of_describes describes),
      decode_written describes, ?_, layout, describes, rfl, rfl, ?_⟩
    · rw [bytes_eq, List.length_append, Nat.add_sub_cancel]
      exact length_written_le_piece describes
    · rw [take_bytes]
      exact written_eq_iff describes
  · intro sound
    have exhausts := Stream.exhausts_of_read shortens_decode sound
    have small : ∀ frame ∈ (Stream.read decode data).values, frame.payload.length < 2 ^ 32 := by
      intro frame among
      obtain ⟨layout, describes⟩ := exists_describes exhausts frame among
      exact small_of_describes describes
    refine ⟨two_le_of_mem_consumed exhausts,
      Stream.flatten_consumed take_append_of_decode exhausts, _, mapM_encode small, ?_⟩
    rw [← List.flatMap_def]
    exact ⟨length_written_le exhausts, read_written exhausts⟩

/-- A removal whose client and length are spelled with a zero group, before an update with one. -/
def padded : Bytes := [2, 0x85, 0x00, 0x80, 0x00, 1, 0x81, 0x00, 0xFF]

theorem reencode_canonical_padded :
    decode padded = .ok (awareness 5 none, [1, 0x81, 0x00, 0xFF]) ∧
    (∃ bytes, (awareness 5 none).encode = .ok bytes ∧ bytes.length ≤ 5) ∧
    (Stream.read decode padded).fault = none ∧
    (Stream.consumed padded (Stream.read decode padded).items).flatten = padded := by
  have read : decode padded = .ok (awareness 5 none, [1, 0x81, 0x00, 0xFF]) := rfl
  have sound : (Stream.read decode padded).fault = none := rfl
  obtain ⟨frames, streams⟩ := reencode_canonical padded
  obtain ⟨bytes, wrote, _, short, _⟩ := frames _ _ read
  exact ⟨read, ⟨bytes, wrote, short⟩, sound, (streams sound).2.1⟩

end SyncProbe.Frame
