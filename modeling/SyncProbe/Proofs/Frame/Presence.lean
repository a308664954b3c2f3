import SyncProbe.Frame.Awareness
import SyncProbe.Proofs.Frame.RoundTrip
import SyncProbe.Proofs.Json.Alike
import SyncProbe.Proofs.Json.RoundTrip

/-!
# A client's presence, from value to value

A client tells others of its presence by a JSON value. The value is written as text, the text is the
state of an awareness frame, and the frame is written before whatever else is sent. At the other end
the frame is read from the front of the bytes, and its state is read as JSON. What arrives says the
same as the value that was sent. It has its members in order, so a value that was held in order
arrives as it is.

Results:
1. `decode_presence`: the frame arrives with its state, which is never taken for a removal.
2. `awarenessState_presence`: the state is read as the value, in order.
3. `presence_survives`: both together, and two values arrive as one only if they are alike.
-/

namespace SyncProbe.Frame

open Json (Readable)

/-- A value that can be sent as a presence: it can be read back from text, no object in it has two
members of one name, and the length of its text can be written. -/
structure Sendable (value : Json) : Prop where
  readable : Readable Json.maxDepth value
  unambiguous : value.Unambiguous
  small : (Utf8.encode value.text).length < 2 ^ 32

/-- The frame that tells of a client's presence. -/
def presence (clientId : UInt32) (value : Json) : Frame :=
  awareness clientId (some value.text)

variable {clientId : UInt32} {value : Json}

theorem text_ne_empty_of_readable {depth : Nat} (readable : Readable depth value) :
    value.text ≠ "" := by
  obtain ⟨c, cs, front, _⟩ := Json.exists_front readable
  intro none
  have chars := congrArg String.toList none
  rw [Json.text, String.toList_ofList, front] at chars
  cases chars

/-- A value is never written as the empty text, which would be read as a removal. -/
theorem normal_presence (sendable : Sendable value) :
    (presence clientId value).normal = presence clientId value :=
  if_neg (text_ne_empty_of_readable sendable.readable)

theorem decode_presence {bytes : Bytes} (sendable : Sendable value)
    (wrote : (presence clientId value).encode = .ok bytes) (tail : Bytes) :
    decode (bytes ++ tail) = .ok (presence clientId value, tail) := by
  rw [decode_encode_append wrote, normal_presence sendable]

theorem awarenessState_presence (sendable : Sendable value) :
    (presence clientId value).awarenessState = some (.ok value.sorted) := by
  rw [presence, awarenessState, Json.parse_text sendable.readable]

/-- A value that is sent as a client's presence, before any other bytes, arrives with the client and
leaves those bytes. What arrives has its members in order and says the same as the value, and is the
value itself if that was in order. Of all values that are sent, by whatever client and before
whatever bytes, only those that say the same arrive as that one. -/
theorem presence_survives (clientId : UInt32) (tail : Bytes) {value : Json}
    (sendable : Sendable value) :
    ∃ bytes arrived,
      (awareness clientId (some value.text)).encode = .ok bytes ∧
      decode (bytes ++ tail) = .ok (awareness clientId (some value.text), tail) ∧
      (awareness clientId (some value.text)).awarenessState = some (.ok arrived) ∧
      arrived.Alike value ∧ arrived.InOrder ∧ (value.InOrder → arrived = value) ∧
      ∀ (clientId' : UInt32) (value' : Json) (bytes' tail' rest : Bytes) (frame : Frame),
        Sendable value' → (awareness clientId' (some value'.text)).encode = .ok bytes' →
        decode (bytes' ++ tail') = .ok (frame, rest) →
        (frame.awarenessState = some (.ok arrived) ↔ value'.Alike value) := by
  have wrote : (presence clientId value).encode = .ok (presence clientId value).written :=
    encode_of_small sendable.small
  refine ⟨_, value.sorted, wrote, decode_presence sendable wrote tail,
    awarenessState_presence sendable, Json.alike_sorted sendable.unambiguous,
    Json.inOrder_sorted sendable.unambiguous, Json.sorted_of_inOrder, ?_⟩
  intro clientId' value' bytes' tail' rest frame sendable' wrote' read
  -- The other frame is the one that was sent, so its state is read as its own value in order.
  have arrives := decode_presence sendable' wrote' tail'
  obtain ⟨rfl, rfl⟩ := Prod.mk.inj (Except.ok.inj (read.symm.trans arrives))
  rw [awarenessState_presence sendable', Option.some_inj, Except.ok.injEq]
  exact Json.sorted_eq_iff_alike sendable'.unambiguous sendable.unambiguous

/-- A cursor with its members out of order, with a text that must be escaped, and with the least and
the greatest integer. -/
def cursor : Json :=
  .object [("é\n", .string "\"\\\x01😀"),
    ("at", .array [.number (.integer (-9223372036854775808)),
      .number (.integer 18446744073709551615)])]

theorem sendable_cursor : Sendable cursor where
  readable := .object (List.forall_mem_cons.mpr ⟨.string, List.forall_mem_singleton.mpr
    (.array (List.forall_mem_cons.mpr ⟨.integer (by decide) (by decide),
      List.forall_mem_singleton.mpr (.integer (by decide) (by decide))⟩))⟩)
  unambiguous := .object (by decide) (List.forall_mem_cons.mpr ⟨.string,
    List.forall_mem_singleton.mpr (.array (List.forall_mem_cons.mpr ⟨.number,
      List.forall_mem_singleton.mpr .number⟩))⟩)
  small := by decide +kernel

theorem sendable_null : Sendable .null where
  readable := .null
  unambiguous := .null
  small := by decide +kernel

/-- A cursor arrives as it is but for the order of its members, and not as a null does. -/
theorem presence_survives_cursor :
    Sendable cursor ∧ Sendable .null ∧ Json.null.InOrder ∧
    ∃ bytes bytes' arrived,
      (awareness 300 (some cursor.text)).encode = .ok bytes ∧
      decode (bytes ++ [0x80]) = .ok (awareness 300 (some cursor.text), [0x80]) ∧
      (awareness 300 (some cursor.text)).awarenessState = some (.ok arrived) ∧
      arrived.Alike cursor ∧
      (awareness 7 (some Json.null.text)).encode = .ok bytes' ∧
      decode (bytes' ++ []) = .ok (awareness 7 (some Json.null.text), []) ∧
      (awareness 7 (some Json.null.text)).awarenessState = some (.ok .null) ∧
      (awareness 7 (some Json.null.text)).awarenessState ≠ some (.ok arrived) := by
  obtain ⟨bytes, arrived, wrote, read, state, alike, _, _, only⟩ :=
    presence_survives 300 [0x80] sendable_cursor
  obtain ⟨bytes', arrived', wrote', read', state', _, _, kept, _⟩ :=
    presence_survives 7 [] sendable_null
  obtain rfl := kept .null
  refine ⟨sendable_cursor, sendable_null, .null, bytes, bytes', arrived, wrote, read, state, alike,
    wrote', read', state', fun arrives => ?_⟩
  have same := (only 7 .null bytes' [] [] _ sendable_null wrote' read').mp arrives
  cases same []

end SyncProbe.Frame
