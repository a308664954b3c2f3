import Mathlib.Algebra.BigOperators.Ring.Finset
import Mathlib.Algebra.Order.BigOperators.Group.Finset
import Mathlib.Data.List.GetD
import SyncProbe.Proofs.Varint.Words

/-!
# Integers by the positions of their bytes

Which byte strings an integer is read from can be told byte by byte, from the front: the bytes
before the last one of a spelling go on, the last one does not, and a fifth one holds four bits. The
integer is the sum of the bits of each byte, times the place that the byte has.

Results:
1. `spans_append`, `groups_take`, `groupSum_eq_value`: positions and groups say the same.
2. `measure_eq_ok_iff`, `measure_eq_error_iff`: which integer is read, in how many bytes, and what
   is wrong with bytes that none is read from.
3. `shift_exact`: no bit of a group is lost when it is shifted to its place.
4. `decode_by_position`: all of this for every byte string.
-/

namespace SyncProbe.Varint

/-! ## Positions -/

/-- The first `count` bytes are a spelling. -/
structure Spans (data : Bytes) (count : Nat) : Prop where
  some : 1 ≤ count
  few : count ≤ maxLength
  within : count ≤ data.length
  high : ∀ i < count - 1, 0x80 ≤ data.getD i 0
  low : data.getD (count - 1) 0 < 0x80
  top : count = maxLength → data.getD (maxLength - 1) 0 ≤ 0x0F

/-- The seven bits of the byte at a position. -/
def groupAt (data : Bytes) (i : Nat) : Nat :=
  (data.getD i 0).toNat % 128

/-- The integer that the first `count` bytes make, as a number of any size. -/
def groupSum (data : Bytes) (count : Nat) : Nat :=
  ∑ i ∈ Finset.range count, groupAt data i * 128 ^ i

theorem getD_of_lt {data : Bytes} {i : Nat} (inside : i < data.length) :
    data.getD i 0 = data[i] :=
  (List.getElem_eq_getD 0).symm

theorem spans_append {bytes : Bytes} (grouped : Groups (maxLength - 1) bytes) (rest : Bytes) :
    Spans (bytes ++ rest) bytes.length := by
  have few := groups_length_le grouped
  obtain ⟨initial, final, rfl, high, low, _, top⟩ := grouped
  have last : ((initial ++ [final]) ++ rest).getD initial.length 0 = final := by
    simp
  rw [List.length_append, List.length_singleton] at few ⊢
  refine ⟨Nat.le_add_left .., few, ?_, ?_, ?_, ?_⟩
  · simp
  · intro i before
    rw [Nat.add_sub_cancel] at before
    have there : ((initial ++ [final]) ++ rest).getD i 0 = initial[i] := by
      rw [List.append_assoc, List.getD_append _ _ _ _ before, getD_of_lt before]
    rw [there]
    exact high _ (List.getElem_mem before)
  · rw [Nat.add_sub_cancel, last]
    exact low
  · intro full
    have length : initial.length = maxLength - 1 := Nat.eq_sub_of_add_eq full
    rw [← length, last]
    exact top length

theorem groups_take {data : Bytes} {count : Nat} (spans : Spans data count) :
    Groups (maxLength - 1) (data.take count) := by
  obtain ⟨some, few, within, high, low, top⟩ := spans
  obtain ⟨before, rfl⟩ := Nat.exists_eq_add_of_le' some
  have inside : before < data.length := within
  have size : (data.take before).length = before := by
    rw [List.length_take]
    omega
  rw [Nat.add_sub_cancel] at high low
  rw [← List.take_append_getElem inside]
  refine ⟨data.take before, data[before], rfl, ?_, ?_, ?_, ?_⟩
  · intro byte member
    obtain ⟨i, near, rfl⟩ := List.mem_take_iff_getElem.mp member
    rw [← getD_of_lt]
    exact high i (by omega)
  · rw [← getD_of_lt inside]
    exact low
  · rw [size]
    exact Nat.le_sub_one_of_lt few
  · intro full
    rw [size] at full
    subst full
    rw [← getD_of_lt inside]
    exact top rfl

theorem groupSum_succ (byte : UInt8) (bytes : Bytes) (count : Nat) :
    groupSum (byte :: bytes) (count + 1) = byte.toNat % 128 + 128 * groupSum bytes count := by
  rw [groupSum, Finset.sum_range_succ', Nat.add_comm, Nat.pow_zero, Nat.mul_one, groupSum,
    Finset.mul_sum]
  refine congrArg (byte.toNat % 128 + ·) (Finset.sum_congr rfl fun i _ => ?_)
  rw [Nat.pow_succ, ← Nat.mul_assoc, Nat.mul_comm]
  rfl

/-- The bits of the bytes at their places are the integer that the bytes make. -/
theorem groupSum_eq_value {data : Bytes} {count : Nat} (within : count ≤ data.length) :
    groupSum data count = value (data.take count) := by
  induction count generalizing data with
  | zero => rw [List.take_zero, value, groupSum, Finset.sum_range_zero]
  | succ count ih =>
    cases data with
    | nil => exact absurd within (Nat.not_succ_le_zero _)
    | cons byte bytes =>
      rw [groupSum_succ, ih (Nat.le_of_succ_le_succ within), List.take_succ_cons, value]

theorem groupSum_lt {data : Bytes} {count : Nat} (spans : Spans data count) :
    groupSum data count < 2 ^ 32 := by
  rw [groupSum_eq_value spans.within]
  exact value_lt (groups_take spans)

/-! ## Reading -/

theorem measure_eq_ok_iff {data : Bytes} {number : UInt32} {count : Nat} :
    measure data = .ok (number, count) ↔
      Spans data count ∧ number.toNat = groupSum data count := by
  constructor
  · intro read
    rcases spells_or_fails data with ⟨bytes, other, rest, spells, rfl⟩ | ⟨error, fails⟩
    · rw [measure_append spells] at read
      cases read
      have spans := spans_append spells.1 rest
      refine ⟨spans, ?_⟩
      rw [groupSum_eq_value spans.within, List.take_left]
      exact spells.2.symm
    · rw [measure_of_fails fails] at read
      cases read
  · rintro ⟨spans, sum⟩
    have spells : Spells (data.take count) number := by
      refine ⟨groups_take spans, ?_⟩
      rw [sum, groupSum_eq_value spans.within]
    have read := measure_append spells (data.drop count)
    rwa [List.take_append_drop, List.length_take_of_le spans.within] at read

theorem measure_eq_error_iff {data : Bytes} {error : Error} :
    measure data = .error error ↔ Fails data error := by
  refine ⟨fun refused => ?_, measure_of_fails⟩
  rcases spells_or_fails data with ⟨bytes, number, rest, spells, rfl⟩ | ⟨other, fails⟩
  · rw [measure_append spells] at refused
    cases refused
  · rw [measure_of_fails fails] at refused
    cases refused
    exact fails

theorem fails_incomplete_iff {data : Bytes} :
    Fails data .incomplete ↔
      1 ≤ data.length ∧ data.length ≤ 4 ∧ ∀ byte ∈ data, 0x80 ≤ byte := by
  have some : data ≠ [] ↔ 1 ≤ data.length := List.length_pos_iff.symm
  rw [Fails, some]
  exact and_congr_right fun _ => and_congr_left fun _ => Nat.lt_succ_iff

/-- Five bytes and more do not spell an integer if four of them go on and the fifth is too large. -/
theorem fails_overflow_iff {data : Bytes} :
    Fails data .overflow ↔
      5 ≤ data.length ∧ (∀ i < 4, 0x80 ≤ data.getD i 0) ∧ 0x0F < data.getD 4 0 := by
  constructor
  · rintro ⟨initial, fifth, rest, rfl, full, high, large⟩
    have four : initial.length = 4 := full
    refine ⟨?_, fun i before => ?_, ?_⟩
    · rw [List.length_append, four, List.length_cons]
      omega
    · have inside : i < initial.length := by rwa [four]
      rw [List.getD_append _ _ _ _ inside, getD_of_lt inside]
      exact high _ (List.getElem_mem inside)
    · rw [List.getD_append_right _ _ _ _ (Nat.le_of_eq four), four]
      exact large
  · rintro ⟨enough, high, large⟩
    refine ⟨data.take 4, data.getD 4 0, data.drop 5, ?_, ?_, ?_, large⟩
    · rw [getD_of_lt enough, List.getElem_cons_drop, List.take_append_drop]
    · rw [List.length_take_of_le (by omega)]
      rfl
    · intro byte member
      obtain ⟨i, near, rfl⟩ := List.mem_take_iff_getElem.mp member
      rw [← getD_of_lt]
      exact high i (by omega)

/-- A group keeps all of its bits when it is shifted to its place in a word. -/
theorem shift_exact {data : Bytes} {count i : Nat} (spans : Spans data count) (among : i < count) :
    ((data.getD i 0 &&& 0x7F).toUInt32 <<< UInt32.ofNat (7 * i)).toNat =
      groupAt data i * 128 ^ i := by
  have part : groupAt data i * 128 ^ i ≤ groupSum data count :=
    Finset.single_le_sum (f := fun i => groupAt data i * 128 ^ i) (fun _ _ => Nat.zero_le _)
      (Finset.mem_range.mpr among)
  have bits := toNat_and_low (data.getD i 0)
  have place : i ≤ 4 := Nat.le_of_lt_succ (Nat.lt_of_lt_of_le among spans.few)
  have nothing : (0 : UInt32).toNat < 128 ^ i := Nat.pow_pos (by decide)
  have alone := toNat_or_shift place nothing
    (by rw [bits]; exact Nat.lt_of_le_of_lt part (groupSum_lt spans))
  rw [UInt32.zero_or, UInt32.toNat_zero, Nat.zero_add, bits, Nat.mul_comm (128 ^ i)] at alone
  exact alone

/-- An integer is read in so many bytes exactly if these go on up to the last one, which does not,
and a fifth one has no more than four bits. The integer is the sum of their bits at their places: it
has 32 bits, and none is lost where a group is shifted. Otherwise there are no bytes, or too few of
them and all go on, or four go on before one that is too large. -/
theorem decode_by_position (data : Bytes) :
    decode data = (measure data).map (fun read => (read.1, data.drop read.2)) ∧
    (∀ number count, measure data = .ok (number, count) ↔
      Spans data count ∧ number.toNat = groupSum data count) ∧
    (∀ count, Spans data count → groupSum data count < 2 ^ 32 ∧
      ∀ i < count, ((data.getD i 0 &&& 0x7F).toUInt32 <<< UInt32.ofNat (7 * i)).toNat =
        groupAt data i * 128 ^ i) ∧
    (measure data = .error .empty ↔ data = []) ∧
    (measure data = .error .incomplete ↔
      1 ≤ data.length ∧ data.length ≤ 4 ∧ ∀ byte ∈ data, 0x80 ≤ byte) ∧
    (measure data = .error .overflow ↔
      5 ≤ data.length ∧ (∀ i < 4, 0x80 ≤ data.getD i 0) ∧ 0x0F < data.getD 4 0) := by
  refine ⟨?_, fun number count => measure_eq_ok_iff, fun count spans => ⟨groupSum_lt spans,
    fun i among => shift_exact spans among⟩, measure_eq_error_iff,
    measure_eq_error_iff.trans fails_incomplete_iff, measure_eq_error_iff.trans fails_overflow_iff⟩
  rcases spells_or_fails data with ⟨bytes, number, rest, spells, rfl⟩ | ⟨error, fails⟩
  · rw [measure_append spells, decode_append spells]
    show _ = Except.ok (number, (bytes ++ rest).drop bytes.length)
    rw [List.drop_left]
  · rw [measure_of_fails fails, decode_of_fails fails]
    rfl

/-- The largest integer, with a byte behind it. -/
def largest : Bytes := [0xFF, 0xFF, 0xFF, 0xFF, 0x0F, 0x99]

theorem decode_by_position_largest :
    Spans largest 5 ∧ measure largest = .ok (0xFFFFFFFF, 5) ∧
    (groupSum largest 5 < 2 ^ 32 ∧
      ((largest.getD 4 0 &&& 0x7F).toUInt32 <<< UInt32.ofNat (7 * 4)).toNat =
        groupAt largest 4 * 128 ^ 4) := by
  have read : measure largest = .ok (0xFFFFFFFF, 5) := by decide +kernel
  obtain ⟨_, accepts, bits, _⟩ := decode_by_position largest
  have spans : Spans largest 5 := ((accepts _ _).mp read).1
  exact ⟨spans, read, (bits 5 spans).1, (bits 5 spans).2 4 (by decide)⟩

end SyncProbe.Varint
