import SyncProbe.Proofs.Stream
import SyncProbe.Proofs.Varint.Shortest
import SyncProbe.Proofs.Varint.Words

/-!
# Integers written to a buffer

`push` writes an integer the way a machine does: as long as the word has more than seven bits, its
low seven go to the end of a buffer, and the word is shifted past them. `append` also tells how much
longer the buffer has become. So integers stand one behind the other, and each says where it ends.

Results:
1. `push_eq`: what is pushed is what `encode` writes.
2. `appendAll_eq`: a buffer stays as it is before the integers that are written to it.
3. `take_decode`, `take_measureNext`: they are read back from where the buffer ended, each in its
   own bytes.
4. `append_delimits`: all of this, and no bytes but those that are written spell an integer as
   shortly.
-/

namespace SyncProbe.Varint

/-! ## Writing -/

theorem toNat_shiftRight_seven (number : UInt32) : (number >>> 7).toNat = number.toNat / 128 := by
  rw [UInt32.toNat_shiftRight]
  exact Nat.shiftRight_eq_div_pow number.toNat 7

theorem not_low_iff {number : UInt32} : ¬ number < 0x80 ↔ 128 ≤ number.toNat := by
  rw [UInt32.lt_iff_toNat_lt]
  exact Nat.not_lt

/-- Writes the groups of an integer to the end of a buffer. -/
def push (number : UInt32) (buffer : Bytes) : Bytes :=
  if number < 0x80 then buffer ++ [number.toUInt8]
  else push (number >>> 7) (buffer ++ [number.toUInt8 &&& 0x7F ||| 0x80])
termination_by number.toNat
decreasing_by
  have large := not_low_iff.mp ‹¬ number < 0x80›
  rw [toNat_shiftRight_seven]
  omega

/-- Writes an integer to the end of a buffer, and tells how many bytes that takes. -/
def append (number : UInt32) (buffer : Bytes) : Bytes × Nat :=
  let longer := push number buffer
  (longer, longer.length - buffer.length)

/-- Writes integers one after another. -/
def appendAll : List UInt32 → Bytes → Bytes × List Nat
  | [], buffer => (buffer, [])
  | number :: numbers, buffer =>
    let (buffer, count) := append number buffer
    let (buffer, counts) := appendAll numbers buffer
    (buffer, count :: counts)

theorem toUInt8_of_low {number : UInt32} (low : number.toNat < 128) :
    number.toUInt8 = UInt8.ofNat number.toNat := by
  rw [← UInt8.toNat_inj, UInt32.toNat_toUInt8, toNat_ofNat_of_lt (by omega)]
  omega

/-- The byte of a group that is not the last: its seven bits, and the bit that goes on. -/
theorem group_byte (number : UInt32) :
    number.toUInt8 &&& 0x7F ||| 0x80 = UInt8.ofNat (number.toNat % 128 + 128) := by
  have bits : (number.toUInt8 &&& 0x7F).toNat = number.toNat % 128 := by
    rw [toNat_and_low, UInt32.toNat_toUInt8]
    omega
  have small : number.toNat % 128 < 128 := Nat.mod_lt _ (by decide)
  have joined := Nat.two_pow_add_eq_or_of_lt (i := 7) small 1
  rw [← UInt8.toNat_inj, toNat_ofNat_of_lt (by omega), UInt8.toNat_or, bits, Nat.or_comm,
    Nat.add_comm]
  exact joined.symm

/-- The induction is on the bytes that may follow the first one. -/
theorem push_eq_groups {room : Nat} {number : UInt32} (small : number.toNat < 16 * 128 ^ room)
    (buffer : Bytes) : push number buffer = buffer ++ groups room number.toNat := by
  induction room generalizing number buffer with
  | zero =>
    have low : number < 0x80 := by
      rw [UInt32.lt_iff_toNat_lt]
      exact Nat.lt_trans small (by decide)
    rw [push, if_pos low, groups, toUInt8_of_low (by omega)]
  | succ room ih =>
    rw [push, groups]
    by_cases low : number < 0x80
    · have bits : number.toNat < 128 := UInt32.lt_iff_toNat_lt.mp low
      rw [if_pos low, if_pos bits, toUInt8_of_low bits]
    · have large := not_low_iff.mp low
      have smaller : (number >>> 7).toNat < 16 * 128 ^ room := by
        rw [toNat_shiftRight_seven]
        rw [Nat.pow_succ] at small
        omega
      rw [if_neg low, if_neg (Nat.not_lt.mpr large), ih smaller, group_byte,
        toNat_shiftRight_seven, List.append_assoc]
      rfl

theorem push_eq (number : UInt32) (buffer : Bytes) :
    push number buffer = buffer ++ encode number :=
  push_eq_groups (show number.toNat < 16 * 128 ^ (maxLength - 1) from number.toNat_lt) buffer

theorem append_eq (number : UInt32) (buffer : Bytes) :
    append number buffer = (buffer ++ encode number, width number.toNat) := by
  rw [append, push_eq, List.length_append, Nat.add_sub_cancel_left, length_encode]

/-- What is in a buffer stays there, and the integers follow in order. -/
theorem appendAll_eq (numbers : List UInt32) (buffer : Bytes) :
    appendAll numbers buffer =
      (buffer ++ numbers.flatMap encode, numbers.map fun number => width number.toNat) := by
  induction numbers generalizing buffer with
  | nil => rw [appendAll, List.flatMap_nil, List.append_nil, List.map_nil]
  | cons number numbers ih =>
    rw [appendAll, append_eq]
    simp only [ih]
    rw [List.flatMap_cons, List.map_cons, List.append_assoc]

/-! ## Reading -/

/-- Reads an integer from the front of a byte string and tells how many bytes it takes. What it
leaves is what follows that many bytes. -/
def measureNext (data : Bytes) : Except Error ((UInt32 × Nat) × Bytes) :=
  (measure data).map fun read => (read, data.drop read.2)

theorem measureNext_append {bytes : Bytes} {number : UInt32} (spells : Spells bytes number)
    (rest : Bytes) : measureNext (bytes ++ rest) = .ok ((number, bytes.length), rest) := by
  rw [measureNext, measure_append spells]
  show Except.ok ((number, bytes.length), (bytes ++ rest).drop bytes.length) = _
  rw [List.drop_left]

theorem measureNext_encode_append (number : UInt32) (rest : Bytes) :
    measureNext (encode number ++ rest) = .ok ((number, width number.toNat), rest) := by
  rw [measureNext_append (spells_encode number), length_encode]

/-- Integers that are written one after another are read back in order, and what comes behind them
is left. -/
theorem take_measureNext (numbers : List UInt32) (tail : Bytes) :
    Stream.take measureNext numbers.length (numbers.flatMap encode ++ tail) =
      .ok (numbers.map fun number => (number, width number.toNat), tail) :=
  Stream.take_flatMap (fun number _ => measureNext_encode_append number) tail

theorem take_decode (numbers : List UInt32) (tail : Bytes) :
    Stream.take decode numbers.length (numbers.flatMap encode ++ tail) = .ok (numbers, tail) := by
  have taken : Stream.take decode numbers.length (numbers.flatMap encode ++ tail) =
      .ok (numbers.map id, tail) :=
    Stream.take_flatMap (fun number _ => decode_encode_append number) tail
  rwa [List.map_id] at taken

/-- Integers that are written to a buffer follow what is in it, each in as many bytes as it is told
to take, which is one for each seven bits and never more than five. From the end of the old buffer
on they are read back, each from its own bytes, up to whatever follows them. Bytes that an integer
can be read from are no fewer than those that are written of it, and if they are as many, they are
the same. -/
theorem append_delimits (buffer : Bytes) (numbers : List UInt32) (tail : Bytes) :
    (∀ number, append number buffer = (buffer ++ encode number, width number.toNat) ∧
      (encode number).length = width number.toNat ∧ width number.toNat ≤ maxLength) ∧
    appendAll numbers buffer =
      (buffer ++ numbers.flatMap encode, numbers.map fun number => width number.toNat) ∧
    Stream.take decode numbers.length
        (((appendAll numbers buffer).1 ++ tail).drop buffer.length) = .ok (numbers, tail) ∧
    Stream.take measureNext numbers.length
        (((appendAll numbers buffer).1 ++ tail).drop buffer.length) =
      .ok (numbers.map fun number => (number, width number.toNat), tail) ∧
    ∀ data number rest, decode data = .ok (number, rest) →
      width number.toNat ≤ data.length ∧
        (data.length = width number.toNat → data = encode number) := by
  refine ⟨fun number => ⟨append_eq number buffer, length_encode number, width_le number⟩,
    appendAll_eq numbers buffer, ?_, ?_, ?_⟩
  · rw [appendAll_eq, List.append_assoc, List.drop_left]
    exact take_decode numbers tail
  · rw [appendAll_eq, List.append_assoc, List.drop_left]
    exact take_measureNext numbers tail
  · intro data number rest read
    obtain ⟨bytes, spells, rfl⟩ := decode_eq_ok_iff.mp read
    have shortest := length_encode_le spells
    rw [length_encode] at shortest
    rw [List.length_append]
    refine ⟨Nat.le_trans shortest (Nat.le_add_right _ _), fun few => ?_⟩
    -- There is no room for bytes behind the spelling.
    obtain rfl : rest = [] := List.length_eq_zero_iff.mp (by omega)
    rw [List.append_nil]
    exact eq_encode_of_length spells (by rw [length_encode, ← few, List.length_nil, Nat.add_zero])

theorem append_delimits_twoBytes :
    decode [0xAC, 0x02] = .ok (300, []) ∧
    ([0xAC, 0x02] : Bytes).length = width (300 : UInt32).toNat ∧
    [0xAC, 0x02] = encode 300 ∧
    Stream.take decode 1 (((appendAll [300] [7]).1 ++ [9]).drop 1) = .ok ([300], [9]) := by
  have read : decode [0xAC, 0x02] = .ok (300, []) := rfl
  have needed : ([0xAC, 0x02] : Bytes).length = width (300 : UInt32).toNat := length_encode 300
  obtain ⟨_, _, back, _, shortest⟩ := append_delimits [7] [300] [9]
  exact ⟨read, needed, (shortest _ _ _ read).2 needed, back⟩

end SyncProbe.Varint
