import SyncProbe.Frame
import SyncProbe.Proofs.Varint.Spelling

/-!
# Which bytes start with a frame

The bytes of a frame are its tag, the spelled client where the kind has one, the spelled length of
the payload, and the payload. `Layout` is such a cut of a byte string, with what comes behind the
frame. `Layout.Describes` says which cuts are those of which frame, and `Malformed` what is wrong
with bytes that have no such cut: the first stage of reading that does not go through.

Results:
1. `decode_eq_ok_iff`: `decode` reads exactly the frames that have a layout.
2. `decode_eq_error_iff`: it refuses exactly the malformed byte strings, each for its own error.
3. `layout_unique`: a byte string has at most one layout, also where integers are spelled with more
   bytes than they need.
-/

namespace SyncProbe

open Varint (Spells)

namespace Frame

/-! ## The grammar -/

/-- The bytes are a spelling of the payload's length. -/
def Declares (length payload : Bytes) : Prop :=
  ∃ number, Spells length number ∧ number.toNat = payload.length

/-- The bytes between the tag and the length of a frame: in an awareness frame they spell the
client, and the other kinds have none. -/
def ClientField : FrameKind → Bytes → Prop
  | .awareness, client => ∃ clientId, Spells client clientId
  | _, client => client = []

/-- A byte string that starts with a frame, in its parts. -/
structure Layout where
  kind : FrameKind
  client : Bytes
  length : Bytes
  payload : Bytes
  /-- What comes behind the frame. -/
  rest : Bytes

/-- The byte string itself. -/
def Layout.bytes (layout : Layout) : Bytes :=
  layout.kind.tag :: (layout.client ++ (layout.length ++ (layout.payload ++ layout.rest)))

/-- `layout.Describes frame`: the frame that the byte string starts with. An awareness frame has no
state exactly when its payload is empty. -/
inductive Layout.Describes : Layout → Frame → Prop
  | syncStep1 {length payload rest : Bytes} :
      Declares length payload →
      Describes ⟨.syncStep1, [], length, payload, rest⟩ (syncStep1 payload)
  | syncStep2 {length payload rest : Bytes} :
      Declares length payload →
      Describes ⟨.syncStep2, [], length, payload, rest⟩ (syncStep2 payload)
  | removed {client length rest : Bytes} {clientId : UInt32} :
      Spells client clientId → Declares length [] →
      Describes ⟨.awareness, client, length, [], rest⟩ (awareness clientId none)
  | present {client length rest : Bytes} {clientId : UInt32} {state : String} :
      Spells client clientId → state ≠ "" → Declares length (Utf8.encode state) →
      Describes ⟨.awareness, client, length, Utf8.encode state, rest⟩
        (awareness clientId (some state))

/-- `Malformed data error`: no frame starts the bytes. The stages before the one that fails have
gone through, which is what decides between two errors. -/
inductive Malformed : Bytes → DecodeError → Prop
  | empty : Malformed [] .empty
  | unknownKind {tag : UInt8} {body : Bytes} :
      2 < tag → Malformed (tag :: body) (.unknownKind tag)
  | client {body : Bytes} {error : Varint.Error} :
      Varint.Fails body error → Malformed (FrameKind.awareness.tag :: body) (.length error)
  | length {kind : FrameKind} {client body : Bytes} {error : Varint.Error} :
      ClientField kind client → Varint.Fails body error →
      Malformed (kind.tag :: (client ++ body)) (.length error)
  | truncated {kind : FrameKind} {client length body : Bytes} {number : UInt32} :
      ClientField kind client → Spells length number → body.length < number.toNat →
      Malformed (kind.tag :: (client ++ (length ++ body)))
        (.truncated number.toNat body.length)
  | invalidUtf8 {client length payload rest : Bytes} {clientId : UInt32} :
      Spells client clientId → Declares length payload →
      (∀ state, payload ≠ Utf8.encode state) →
      Malformed (FrameKind.awareness.tag :: (client ++ (length ++ (payload ++ rest)))) .invalidUtf8

/-! ## Tags -/

@[simp] theorem ofTag?_tag (kind : FrameKind) : FrameKind.ofTag? kind.tag = some kind := by
  cases kind <;> rfl

theorem tag_injective {kind kind' : FrameKind} (equal : kind.tag = kind'.tag) : kind = kind' := by
  have same := congrArg FrameKind.ofTag? equal
  rw [ofTag?_tag, ofTag?_tag] at same
  exact Option.some.inj same

theorem ofTag?_of_large {tag : UInt8} (large : 2 < tag) : FrameKind.ofTag? tag = none := by
  have number : 2 < tag.toNat := UInt8.lt_iff_toNat_lt.mp large
  unfold FrameKind.ofTag?
  rw [if_neg, if_neg, if_neg] <;> rintro rfl <;> exact absurd number (by decide)

theorem tag_or_large (tag : UInt8) : (∃ kind : FrameKind, tag = kind.tag) ∨ 2 < tag := by
  by_cases large : 2 < tag
  · exact Or.inr large
  have small : tag.toNat ≤ 2 := by simpa [UInt8.lt_iff_toNat_lt] using large
  refine Or.inl ?_
  have three : tag.toNat = 0 ∨ tag.toNat = 1 ∨ tag.toNat = 2 := by omega
  rcases three with number | number | number
  · exact ⟨.syncStep1, UInt8.toNat_inj.mp number⟩
  · exact ⟨.syncStep2, UInt8.toNat_inj.mp number⟩
  · exact ⟨.awareness, UInt8.toNat_inj.mp number⟩

/-! ## The stages of reading -/

theorem readLength_append {bytes : Bytes} {number : UInt32} (spells : Spells bytes number)
    (rest : Bytes) : readLength (bytes ++ rest) = .ok (number, rest) := by
  rw [readLength, Varint.decode_append spells]
  rfl

theorem readLength_of_fails {body : Bytes} {error : Varint.Error}
    (fails : Varint.Fails body error) : readLength body = .error (.length error) := by
  rw [readLength, Varint.decode_of_fails fails]
  rfl

theorem readPayload_append {length payload : Bytes} (declares : Declares length payload)
    (rest : Bytes) : readPayload (length ++ (payload ++ rest)) = .ok (payload, rest) := by
  obtain ⟨number, spells, same⟩ := declares
  rw [readPayload, readLength_append spells]
  show (if (payload ++ rest).length < number.toNat then _ else _) = _
  rw [same, if_neg (by simp), List.take_left, List.drop_left]

theorem readPayload_of_fails {body : Bytes} {error : Varint.Error}
    (fails : Varint.Fails body error) : readPayload body = .error (.length error) := by
  rw [readPayload, readLength_of_fails fails]
  rfl

theorem readPayload_truncated {length body : Bytes} {number : UInt32}
    (spells : Spells length number) (short : body.length < number.toNat) :
    readPayload (length ++ body) = .error (.truncated number.toNat body.length) := by
  rw [readPayload, readLength_append spells]
  exact if_pos short

/-- Behind a spelled length there are enough bytes for a payload, or too few. -/
theorem payload_or_fails (body : Bytes) :
    (∃ length payload rest, Declares length payload ∧ body = length ++ (payload ++ rest)) ∨
    (∃ length number rest, Spells length number ∧ rest.length < number.toNat ∧
      body = length ++ rest) ∨
    ∃ error, Varint.Fails body error := by
  rcases Varint.spells_or_fails body with ⟨length, number, rest, spells, rfl⟩ | fails
  · by_cases short : rest.length < number.toNat
    · exact Or.inr (Or.inl ⟨length, number, rest, spells, short, rfl⟩)
    · have enough : (rest.take number.toNat).length = number.toNat := by
        rw [List.length_take]
        omega
      refine Or.inl ⟨length, rest.take number.toNat, rest.drop number.toNat,
        ⟨number, spells, enough.symm⟩, ?_⟩
      rw [List.take_append_drop]
  · exact Or.inr (Or.inr fails)

theorem encode_ne_nil {state : String} (some : state ≠ "") : Utf8.encode state ≠ [] := by
  intro none
  have read := Utf8.decode?_encode state
  rw [none] at read
  have empty := Utf8.decode?_encode ""
  rw [show Utf8.encode "" = [] from rfl, read] at empty
  exact some (Option.some.inj empty)

theorem readState_encode {state : String} (some : state ≠ "") :
    readState (Utf8.encode state) = .ok (Option.some state) := by
  have bytes := encode_ne_nil some
  rw [readState, if_neg (by simpa using bytes), Utf8.decode?_encode]

theorem readState_invalid {payload : Bytes} (invalid : ∀ state, payload ≠ Utf8.encode state) :
    readState payload = .error .invalidUtf8 := by
  have some : payload ≠ [] := invalid ""
  have unread : Utf8.decode? payload = none := by
    rw [Option.eq_none_iff_forall_not_mem]
    intro state read
    exact invalid state (Utf8.decode?_eq_some_iff.mp read)
  rw [readState, if_neg (by simpa using some), unread]

/-- A payload is empty, or it is text, or it is not. -/
theorem state_or_invalid (payload : Bytes) :
    payload = [] ∨ (∃ state, state ≠ "" ∧ payload = Utf8.encode state) ∨
    ∀ state, payload ≠ Utf8.encode state := by
  by_cases none : payload = []
  · exact Or.inl none
  by_cases text : ∃ state, payload = Utf8.encode state
  · obtain ⟨state, rfl⟩ := text
    refine Or.inr (Or.inl ⟨state, ?_, rfl⟩)
    rintro rfl
    exact none rfl
  · exact Or.inr (Or.inr fun state equal => text ⟨state, equal⟩)

/-! ## Reading -/

/-- A frame that has a layout is read. -/
theorem decode_of_describes {layout : Layout} {frame : Frame} (describes : layout.Describes frame) :
    decode layout.bytes = .ok (frame, layout.rest) := by
  cases describes with
  | syncStep1 declares | syncStep2 declares =>
    simp only [Layout.bytes, decode, ofTag?_tag, List.nil_append, readPayload_append declares]
    rfl
  | removed spells declares =>
    simp only [Layout.bytes, decode, ofTag?_tag, readLength_append spells]
    show (readPayload _ >>= _) = _
    rw [readPayload_append declares]
    rfl
  | present spells some declares =>
    simp only [Layout.bytes, decode, ofTag?_tag, readLength_append spells]
    show (readPayload _ >>= _) = _
    rw [readPayload_append declares]
    show (readState _ >>= _) = _
    rw [readState_encode some]
    rfl

theorem decode_of_malformed {data : Bytes} {error : DecodeError}
    (malformed : Malformed data error) : decode data = .error error := by
  cases malformed with
  | empty => rfl
  | unknownKind large => simp only [decode, ofTag?_of_large large]
  | client fails =>
    simp only [decode, ofTag?_tag, readLength_of_fails fails]
    rfl
  | @length kind client body error field fails =>
    cases kind with
    | syncStep1 | syncStep2 =>
      cases field
      simp only [decode, ofTag?_tag, List.nil_append, readPayload_of_fails fails]
      rfl
    | awareness =>
      obtain ⟨clientId, spells⟩ := field
      simp only [decode, ofTag?_tag, readLength_append spells]
      show (readPayload _ >>= _) = _
      rw [readPayload_of_fails fails]
      rfl
  | @truncated kind client length body number field spells short =>
    cases kind with
    | syncStep1 | syncStep2 =>
      cases field
      simp only [decode, ofTag?_tag, List.nil_append, readPayload_truncated spells short]
      rfl
    | awareness =>
      obtain ⟨clientId, clientSpells⟩ := field
      simp only [decode, ofTag?_tag, readLength_append clientSpells]
      show (readPayload _ >>= _) = _
      rw [readPayload_truncated spells short]
      rfl
  | invalidUtf8 spells declares invalid =>
    simp only [decode, ofTag?_tag, readLength_append spells]
    show (readPayload _ >>= _) = _
    rw [readPayload_append declares]
    show (readState _ >>= _) = _
    rw [readState_invalid invalid]
    rfl

/-- Behind the tag and the client, bytes go on to a payload or are malformed. -/
theorem payload_or_malformed {kind : FrameKind} {client : Bytes} (field : ClientField kind client)
    (body : Bytes) :
    (∃ length payload rest, Declares length payload ∧ body = length ++ (payload ++ rest)) ∨
    ∃ error, Malformed (kind.tag :: (client ++ body)) error := by
  rcases payload_or_fails body with found | ⟨length, number, rest, spells, short, rfl⟩ |
      ⟨error, fails⟩
  · exact Or.inl found
  · exact Or.inr ⟨_, .truncated field spells short⟩
  · exact Or.inr ⟨_, .length field fails⟩

/-- Every byte string starts with a frame or is malformed. -/
theorem describes_or_malformed (data : Bytes) :
    (∃ (layout : Layout) (frame : Frame), layout.Describes frame ∧ layout.bytes = data) ∨
    ∃ error, Malformed data error := by
  cases data with
  | nil => exact Or.inr ⟨_, .empty⟩
  | cons tag body =>
    rcases tag_or_large tag with ⟨kind, rfl⟩ | large
    · cases kind with
      | syncStep1 =>
        have field : ClientField .syncStep1 [] := rfl
        rcases payload_or_malformed field body with
          ⟨length, payload, rest, declares, rfl⟩ | malformed
        · exact Or.inl ⟨_, _, .syncStep1 declares, rfl⟩
        · exact Or.inr malformed
      | syncStep2 =>
        have field : ClientField .syncStep2 [] := rfl
        rcases payload_or_malformed field body with
          ⟨length, payload, rest, declares, rfl⟩ | malformed
        · exact Or.inl ⟨_, _, .syncStep2 declares, rfl⟩
        · exact Or.inr malformed
      | awareness =>
        rcases Varint.spells_or_fails body with ⟨client, clientId, body, spells, rfl⟩ |
            ⟨error, fails⟩
        · have field : ClientField .awareness client := ⟨clientId, spells⟩
          rcases payload_or_malformed field body with
            ⟨length, payload, rest, declares, rfl⟩ | malformed
          · rcases state_or_invalid payload with rfl | ⟨state, some, rfl⟩ | invalid
            · exact Or.inl ⟨_, _, .removed spells declares, rfl⟩
            · exact Or.inl ⟨_, _, .present spells some declares, rfl⟩
            · exact Or.inr ⟨_, .invalidUtf8 spells declares invalid⟩
          · exact Or.inr malformed
        · exact Or.inr ⟨_, .client fails⟩
    · exact Or.inr ⟨_, .unknownKind large⟩

theorem decode_eq_ok_iff {data rest : Bytes} {frame : Frame} :
    decode data = .ok (frame, rest) ↔
      ∃ layout : Layout, layout.Describes frame ∧ layout.bytes = data ∧ layout.rest = rest := by
  constructor
  · intro read
    rcases describes_or_malformed data with ⟨layout, other, describes, rfl⟩ | ⟨error, malformed⟩
    · rw [decode_of_describes describes] at read
      cases read
      exact ⟨layout, describes, rfl, rfl⟩
    · rw [decode_of_malformed malformed] at read
      cases read
  · rintro ⟨layout, describes, rfl, rfl⟩
    exact decode_of_describes describes

theorem decode_eq_error_iff {data : Bytes} {error : DecodeError} :
    decode data = .error error ↔ Malformed data error := by
  refine ⟨fun refused => ?_, decode_of_malformed⟩
  rcases describes_or_malformed data with ⟨layout, frame, describes, rfl⟩ | ⟨other, malformed⟩
  · rw [decode_of_describes describes] at refused
    cases refused
  · rw [decode_of_malformed malformed] at refused
    cases refused
    exact malformed

/-! ## One layout only -/

theorem clientField_of_describes {layout : Layout} {frame : Frame}
    (describes : layout.Describes frame) : ClientField layout.kind layout.client := by
  cases describes with
  | syncStep1 | syncStep2 => rfl
  | removed spells | present spells => exact ⟨_, spells⟩

theorem declares_of_describes {layout : Layout} {frame : Frame}
    (describes : layout.Describes frame) : Declares layout.length layout.payload := by
  cases describes with
  | syncStep1 declares | syncStep2 declares => exact declares
  | removed _ declares | present _ _ declares => exact declares

theorem clientField_unique {kind : FrameKind} {client client' body body' : Bytes}
    (field : ClientField kind client) (field' : ClientField kind client')
    (equal : client ++ body = client' ++ body') : client = client' ∧ body = body' := by
  cases kind with
  | syncStep1 | syncStep2 =>
    cases field
    cases field'
    exact ⟨rfl, equal⟩
  | awareness =>
    obtain ⟨clientId, spells⟩ := field
    obtain ⟨clientId', spells'⟩ := field'
    obtain ⟨same, _, behind⟩ := Varint.spelling_unique spells spells' equal
    exact ⟨same, behind⟩

theorem declares_unique {length length' payload payload' rest rest' : Bytes}
    (declares : Declares length payload) (declares' : Declares length' payload')
    (equal : length ++ (payload ++ rest) = length' ++ (payload' ++ rest')) :
    length = length' ∧ payload = payload' ∧ rest = rest' := by
  obtain ⟨number, spells, size⟩ := declares
  obtain ⟨number', spells', size'⟩ := declares'
  obtain ⟨same, rfl, behind⟩ := Varint.spelling_unique spells spells' equal
  obtain ⟨payloads, rests⟩ := List.append_inj behind (size.symm.trans size')
  exact ⟨same, payloads, rests⟩

/-- A byte string has one layout at most. -/
theorem layout_unique {layout layout' : Layout} {frame frame' : Frame}
    (describes : layout.Describes frame) (describes' : layout'.Describes frame')
    (equal : layout.bytes = layout'.bytes) : layout = layout' ∧ frame = frame' := by
  -- The frame is the one that is read. The parts are the same from the front on, since no spelling
  -- starts another one.
  have read := decode_of_describes describes
  rw [equal, decode_of_describes describes'] at read
  have field := clientField_of_describes describes
  have declares := declares_of_describes describes
  have field' := clientField_of_describes describes'
  have declares' := declares_of_describes describes'
  obtain ⟨tags, bodies⟩ := List.cons.inj equal
  obtain ⟨kind, client, length, payload, rest⟩ := layout
  obtain ⟨kind', client', length', payload', rest'⟩ := layout'
  obtain rfl : kind = kind' := tag_injective tags
  obtain ⟨rfl, behind⟩ := clientField_unique field field' bodies
  obtain ⟨rfl, rfl, rfl⟩ := declares_unique declares declares' behind
  cases read
  exact ⟨rfl, rfl⟩

end Frame

end SyncProbe
