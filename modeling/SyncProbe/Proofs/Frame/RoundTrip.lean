import SyncProbe.Proofs.Frame.Layout
import SyncProbe.Proofs.Stream

/-!
# Frames read back

What `encode` writes of a frame is read back by `decode`, whatever bytes come behind it. One frame
does not survive as it is: an awareness frame whose state is the empty text has no payload, and so
reads as a frame without a state. `normal` is what a frame reads back as.

Results:
1. `decode_encode_append`: one frame, and the bytes behind it.
2. `encode_eq_iff`: two frames are written alike exactly if they read back alike.
3. `stream_round_trip`: frames that are written one after another, before any bytes.
-/

namespace SyncProbe.Frame

/-! ## What a frame reads back as -/

/-- The frame as it reads back. A state that is the empty text is none. -/
def normal : Frame → Frame
  | awareness clientId (some state) =>
    if state = "" then awareness clientId none else awareness clientId (some state)
  | frame => frame

theorem kind_normal (frame : Frame) : frame.normal.kind = frame.kind := by
  unfold normal
  split
  · split <;> rfl
  · rfl

theorem client_normal (frame : Frame) : frame.normal.client = frame.client := by
  unfold normal
  split
  · split <;> rfl
  · rfl

theorem payload_normal (frame : Frame) : frame.normal.payload = frame.payload := by
  unfold normal
  split
  · split
    · next empty =>
      subst empty
      rfl
    · rfl
  · rfl

/-! ## One frame -/

/-- The bytes of a frame, if its payload's length can be written. -/
def written (frame : Frame) : Bytes :=
  frame.kind.tag ::
    (frame.client ++ (Varint.encode (UInt32.ofNat frame.payload.length) ++ frame.payload))

theorem encode_of_small {frame : Frame} (small : frame.payload.length < 2 ^ 32) :
    frame.encode = .ok frame.written := by
  have fits : frame.payload.length < UInt32.size := small
  simp only [encode, if_pos fits, written, List.cons_append, List.append_assoc]

theorem encode_eq_ok_iff {frame : Frame} {bytes : Bytes} :
    frame.encode = .ok bytes ↔ frame.payload.length < 2 ^ 32 ∧ bytes = frame.written := by
  constructor
  · intro wrote
    by_cases small : frame.payload.length < 2 ^ 32
    · rw [encode_of_small small] at wrote
      cases wrote
      exact ⟨small, rfl⟩
    · have large : ¬ frame.payload.length < UInt32.size := small
      rw [encode, if_neg large] at wrote
      cases wrote
  · rintro ⟨small, rfl⟩
    exact encode_of_small small

/-- The parts of a written frame, before any bytes. -/
def layout (frame : Frame) (rest : Bytes) : Layout where
  kind := frame.kind
  client := frame.client
  length := Varint.encode (UInt32.ofNat frame.payload.length)
  payload := frame.payload
  rest := rest

theorem layout_bytes (frame : Frame) (rest : Bytes) :
    (frame.layout rest).bytes = frame.written ++ rest := by
  simp only [layout, Layout.bytes, written, List.cons_append, List.append_assoc]

theorem declares_encode {payload : Bytes} (small : payload.length < 2 ^ 32) :
    Declares (Varint.encode (UInt32.ofNat payload.length)) payload :=
  ⟨_, Varint.spells_encode _, UInt32.toNat_ofNat_of_lt' small⟩

theorem layout_describes {frame : Frame} (small : frame.payload.length < 2 ^ 32) (rest : Bytes) :
    (frame.layout rest).Describes frame.normal := by
  have declares := declares_encode small
  cases frame with
  | syncStep1 => exact .syncStep1 declares
  | syncStep2 => exact .syncStep2 declares
  | awareness clientId state =>
    have spells := Varint.spells_encode clientId
    cases state with
    | none => exact .removed spells declares
    | some state =>
      simp only [normal]
      split
      · next empty =>
        subst empty
        exact .removed spells declares
      · next some => exact .present spells some declares

theorem decode_written_append {frame : Frame} (small : frame.payload.length < 2 ^ 32)
    (rest : Bytes) : decode (frame.written ++ rest) = .ok (frame.normal, rest) := by
  rw [← layout_bytes]
  exact decode_of_describes (layout_describes small rest)

/-- A written frame is read back whatever comes behind it. -/
theorem decode_encode_append {frame : Frame} {bytes : Bytes} (wrote : frame.encode = .ok bytes)
    (rest : Bytes) : decode (bytes ++ rest) = .ok (frame.normal, rest) := by
  obtain ⟨small, rfl⟩ := encode_eq_ok_iff.mp wrote
  exact decode_written_append small rest

/-- What a frame reads back as is written like the frame. -/
theorem encode_normal (frame : Frame) : frame.normal.encode = frame.encode := by
  simp only [encode, kind_normal, client_normal, payload_normal]

/-- Two frames are written alike exactly if they read back alike. -/
theorem encode_eq_iff {frame frame' : Frame} (small : frame.payload.length < 2 ^ 32) :
    frame.encode = frame'.encode ↔ frame.normal = frame'.normal := by
  constructor
  · intro equal
    -- Both are written as the same bytes, and those read back as one frame.
    have wrote := encode_of_small small
    have wrote' := wrote
    rw [equal] at wrote'
    have read := decode_encode_append wrote []
    rw [decode_encode_append wrote' []] at read
    exact (Prod.mk.inj (Except.ok.inj read)).1.symm
  · intro equal
    rw [← encode_normal frame, equal, encode_normal]

/-! ## Frames one after another -/

theorem shortens_decode : Stream.Shortens decode := by
  intro data frame rest read
  obtain ⟨layout, _, rfl, rfl⟩ := decode_eq_ok_iff.mp read
  simp only [Layout.bytes, List.length_cons, List.length_append]
  omega

theorem mapM_encode {frames : List Frame}
    (small : ∀ frame ∈ frames, frame.payload.length < 2 ^ 32) :
    frames.mapM encode = .ok (frames.map written) := by
  induction frames with
  | nil => rfl
  | cons frame frames ih =>
    rw [List.mapM_cons, encode_of_small (small frame (by simp)),
      ih fun other member => small other (by simp [member])]
    rfl

/-- Frames that are written one after another are read back in order, each from where the one before
it ended, and what comes behind them is left. Two frames are written alike exactly if they read back
alike. -/
theorem stream_round_trip (frames : List Frame) (tail : Bytes)
    (small : ∀ frame ∈ frames, frame.payload.length < 2 ^ 32) :
    ∃ pieces, frames.mapM encode = .ok pieces ∧
      Stream.take decode frames.length (pieces.flatten ++ tail) = .ok (frames.map normal, tail) ∧
      (Stream.read decode (pieces.flatten ++ tail)).values =
        frames.map normal ++ (Stream.read decode tail).values ∧
      (Stream.read decode (pieces.flatten ++ tail)).fault = (Stream.read decode tail).fault ∧
      ∀ frame ∈ frames,
        (∃ bytes, frame.encode = .ok bytes ∧ decode (bytes ++ tail) = .ok (frame.normal, tail)) ∧
        ∀ frame' : Frame, frame.encode = frame'.encode ↔ frame.normal = frame'.normal := by
  have back : ∀ frame ∈ frames, ∀ rest,
      decode (frame.written ++ rest) = .ok (frame.normal, rest) :=
    fun frame member rest => decode_written_append (small frame member) rest
  obtain ⟨values, fault⟩ := Stream.read_flatMap shortens_decode back tail
  refine ⟨frames.map written, mapM_encode small, ?_, ?_, ?_, ?_⟩
  · rw [← List.flatMap_def]
    exact Stream.take_flatMap back tail
  · rw [← List.flatMap_def]
    exact values
  · rw [← List.flatMap_def]
    exact fault
  · intro frame member
    exact ⟨⟨frame.written, encode_of_small (small frame member), back frame member tail⟩,
      fun frame' => encode_eq_iff (small frame member)⟩

/-- An empty state is lost, and a byte behind the frames that could go on an integer is left. -/
theorem stream_round_trip_empty_state :
    (∀ frame ∈ [awareness 300 (some ""), syncStep2 [0x80, 0x01], awareness 4294967295 (some "é")],
      frame.payload.length < 2 ^ 32) ∧
    ∃ pieces,
      [awareness 300 (some ""), syncStep2 [0x80, 0x01], awareness 4294967295 (some "é")].mapM
        encode = .ok pieces ∧
      Stream.take decode 3 (pieces.flatten ++ [0x80]) =
        .ok ([awareness 300 none, syncStep2 [0x80, 0x01], awareness 4294967295 (some "é")],
          [0x80]) := by
  have small : ∀ frame ∈
      [awareness 300 (some ""), syncStep2 [0x80, 0x01], awareness 4294967295 (some "é")],
      frame.payload.length < 2 ^ 32 := by
    decide
  obtain ⟨pieces, wrote, taken, _⟩ := stream_round_trip _ [0x80] small
  exact ⟨small, pieces, wrote, taken⟩

end SyncProbe.Frame
