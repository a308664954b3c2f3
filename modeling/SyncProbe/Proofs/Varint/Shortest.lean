import Mathlib.Data.Nat.Size
import SyncProbe.Proofs.Varint.Spelling

/-!
# The shortest spelling

An integer may be spelled with zero groups behind the ones that it needs. The spelling without any
is the shortest: it has a single byte, or its last byte is not zero. `encode` writes that one, and
it takes one byte for each seven bits of the integer, and one for zero.

Results:
1. `groups_or_shorter`, `encode_or_shorter`: what is written instead of a spelling is the spelling
   itself, if that is minimal, and shorter otherwise.
2. `encode_eq_iff`, `length_encode_le`, `eq_encode_of_length`: so `encode` writes the shortest
   spelling, and no other one is as short.
3. `length_encode`: how many bytes that takes.
-/

namespace SyncProbe.Varint

/-- No group of the spelling is superfluous. -/
def Minimal (bytes : Bytes) : Prop :=
  bytes.length = 1 ∨ bytes.getLast? ≠ some 0

/-! ## Zero groups at the end -/

theorem value_singleton (byte : UInt8) : value [byte] = byte.toNat % 128 := by
  rw [value, value, Nat.mul_zero, Nat.add_zero]

theorem value_append (bytes rest : Bytes) :
    value (bytes ++ rest) = value bytes + 128 ^ bytes.length * value rest := by
  induction bytes with
  | nil => simp [value]
  | cons byte bytes ih =>
    rw [List.cons_append, value, ih, value, List.length_cons, Nat.pow_succ, Nat.mul_add,
      Nat.add_assoc, Nat.mul_left_comm, Nat.mul_assoc]

/-- Zero is spelled by zero groups only. -/
theorem getLast?_of_value_eq_zero {room : Nat} {bytes : Bytes} (grouped : Groups room bytes)
    (zero : value bytes = 0) : bytes.getLast? = some 0 := by
  obtain ⟨initial, final, rfl, _, low, _, _⟩ := grouped
  have small := toNat_lt_of_low low
  rw [value_append, value_singleton, Nat.mod_eq_of_lt small, Nat.add_eq_zero_iff] at zero
  have none : final.toNat = 0 :=
    (Nat.mul_eq_zero.mp zero.2).resolve_left (Nat.ne_of_gt (Nat.pow_pos (by decide)))
  obtain rfl : final = 0 := UInt8.toNat_inj.mp none
  rw [List.getLast?_append]
  rfl

theorem getLast?_cons_of_groups {room : Nat} {byte : UInt8} {bytes : Bytes}
    (grouped : Groups room bytes) : (byte :: bytes).getLast? = bytes.getLast? := by
  cases bytes with
  | nil => exact absurd rfl (groups_ne_nil grouped)
  | cons next bytes => rw [List.getLast?_cons_cons]

/-- A byte in front changes nothing about the superfluous groups behind it, unless all of these are
superfluous. -/
theorem minimal_cons_iff {room : Nat} {byte : UInt8} {bytes : Bytes} (grouped : Groups room bytes)
    (needed : value bytes ≠ 0) : Minimal (byte :: bytes) ↔ Minimal bytes := by
  have several : (byte :: bytes).length ≠ 1 := by
    simpa using groups_ne_nil grouped
  rw [Minimal, Minimal, getLast?_cons_of_groups grouped]
  constructor
  · rintro (single | last)
    · exact absurd single several
    · exact Or.inr last
  · rintro (single | last)
    · -- A single byte that is zero would not be needed.
      obtain ⟨last, rfl⟩ := List.length_eq_one_iff.mp single
      refine Or.inr fun zero => needed ?_
      rw [List.getLast?_singleton] at zero
      rw [Option.some.inj zero]
      rfl
    · exact Or.inr last

theorem not_minimal_of_superfluous {room : Nat} {byte : UInt8} {bytes : Bytes}
    (grouped : Groups room bytes) (superfluous : value bytes = 0) : ¬ Minimal (byte :: bytes) := by
  rintro (single | last)
  · simp [groups_ne_nil grouped] at single
  · rw [getLast?_cons_of_groups grouped, getLast?_of_value_eq_zero grouped superfluous] at last
    exact last rfl

/-! ## What is written instead of a spelling -/

/-- Groups are written again as they are, or in fewer bytes if some are superfluous. -/
theorem groups_or_shorter {room : Nat} {bytes : Bytes} (grouped : Groups room bytes) :
    (groups room (value bytes) = bytes ∧ Minimal bytes) ∨
      ((groups room (value bytes)).length < bytes.length ∧ ¬ Minimal bytes) := by
  induction room generalizing bytes with
  | zero =>
    obtain ⟨byte, rfl, top⟩ := groups_zero_iff.mp grouped
    have small : byte.toNat ≤ 15 := UInt8.le_iff_toNat_le.mp top
    refine Or.inl ⟨?_, Or.inl rfl⟩
    rw [groups, value_singleton, Nat.mod_eq_of_lt (by omega), UInt8.ofNat_toNat]
  | succ room ih =>
    cases bytes with
    | nil => exact absurd rfl (groups_ne_nil grouped)
    | cons byte bytes =>
      rcases groups_cons_iff.mp grouped with ⟨low, rfl⟩ | ⟨high, rest⟩
      · have small := toNat_lt_of_low low
        refine Or.inl ⟨?_, Or.inl rfl⟩
        rw [value_singleton, Nat.mod_eq_of_lt small, groups, if_pos small, UInt8.ofNat_toNat]
      · rw [value, groups]
        by_cases superfluous : value bytes = 0
        · -- Nothing behind the first byte counts, and only that byte is written.
          refine Or.inr ⟨?_, not_minimal_of_superfluous rest superfluous⟩
          rw [superfluous, if_pos (by omega), List.length_singleton, List.length_cons]
          exact Nat.succ_lt_succ (List.length_pos_iff.mpr (groups_ne_nil rest))
        · have goesOn : 128 ≤ byte.toNat := by simpa [UInt8.le_iff_toNat_le] using high
          have bound := byte.toNat_lt
          have first : (byte.toNat % 128 + 128 * value bytes) % 128 + 128 = byte.toNat := by omega
          have others : (byte.toNat % 128 + 128 * value bytes) / 128 = value bytes := by omega
          rw [if_neg (by omega), first, others, UInt8.ofNat_toNat,
            minimal_cons_iff rest superfluous]
          rcases ih rest with ⟨same, minimal⟩ | ⟨shorter, longer⟩
          · exact Or.inl ⟨congrArg (byte :: ·) same, minimal⟩
          · exact Or.inr ⟨Nat.succ_lt_succ shorter, longer⟩

variable {bytes : Bytes} {number : UInt32}

/-- An integer is written the way it is spelled, or in fewer bytes if some are superfluous. -/
theorem encode_or_shorter (spells : Spells bytes number) :
    (encode number = bytes ∧ Minimal bytes) ∨
      ((encode number).length < bytes.length ∧ ¬ Minimal bytes) := by
  obtain ⟨grouped, same⟩ := spells
  rw [encode, ← same]
  exact groups_or_shorter grouped

theorem length_encode_le (spells : Spells bytes number) :
    (encode number).length ≤ bytes.length := by
  rcases encode_or_shorter spells with ⟨same, _⟩ | ⟨shorter, _⟩
  · exact Nat.le_of_eq (congrArg List.length same)
  · exact Nat.le_of_lt shorter

theorem encode_eq_iff (spells : Spells bytes number) : encode number = bytes ↔ Minimal bytes := by
  rcases encode_or_shorter spells with ⟨same, minimal⟩ | ⟨shorter, longer⟩
  · exact iff_of_true same minimal
  · refine iff_of_false (fun same => ?_) longer
    rw [same] at shorter
    exact Nat.lt_irrefl _ shorter

/-- No other spelling is as short as the one that is written. -/
theorem eq_encode_of_length (spells : Spells bytes number)
    (short : bytes.length = (encode number).length) : bytes = encode number := by
  rcases encode_or_shorter spells with ⟨same, _⟩ | ⟨shorter, _⟩
  · exact same.symm
  · omega

/-! ## How many bytes are written -/

/-- The bytes that an integer needs: one for each seven bits, and one if there are none. -/
def width (number : Nat) : Nat :=
  max 1 ((number.size + 6) / 7)

theorem width_of_lt {number : Nat} (small : number < 128) : width number = 1 := by
  have bits : number.size ≤ 7 := Nat.size_le.mpr small
  unfold width
  omega

theorem width_of_le {number : Nat} (large : 128 ≤ number) :
    width number = width (number / 128) + 1 := by
  -- The quotient has seven bits less.
  have bits (count : Nat) : (number / 128).size ≤ count ↔ number.size ≤ count + 7 := by
    rw [Nat.size_le, Nat.size_le, Nat.pow_add, Nat.div_lt_iff_lt_mul (by decide)]
  have lower := (bits (number / 128).size).mp (Nat.le_refl _)
  have upper := (bits (number.size - 7)).mpr (by omega)
  have some : 7 < number.size := Nat.lt_size.mpr large
  unfold width
  omega

theorem length_groups {room number : Nat} (small : number < 16 * 128 ^ room) :
    (groups room number).length = width number := by
  induction room generalizing number with
  | zero => rw [width_of_lt (by omega), groups, List.length_singleton]
  | succ room ih =>
    rw [groups]
    split
    · next low => rw [width_of_lt low, List.length_singleton]
    · next high =>
      have smaller : number / 128 < 16 * 128 ^ room := by
        rw [Nat.pow_succ] at small
        omega
      rw [width_of_le (Nat.le_of_not_lt high), List.length_cons, ih smaller]

theorem length_encode (number : UInt32) : (encode number).length = width number.toNat :=
  length_groups (show number.toNat < 16 * 128 ^ (maxLength - 1) from number.toNat_lt)

theorem width_le (number : UInt32) : width number.toNat ≤ maxLength := by
  rw [← length_encode]
  exact groups_length_le (spells_encode number).1

end SyncProbe.Varint
