import SyncProbe.Proofs.Varint.Spelling

/-!
# Integers put together in a word

`scan` reads an integer the way a machine does: each group is shifted to its place in a 32-bit word
and joined to the groups before it by or, and what is given back is not the rest of the bytes but
the number of bytes taken.

Results:
1. `measure_eq_decode`: the word holds the integer that `decode` reads, so that no shift loses a
   bit, and the count is the length of its spelling.
2. `measure_append`: on a spelling, the count is its length, and so stays within the bytes.
-/

namespace SyncProbe.Varint

/-- Reads groups from the one at `index` on, where `number` holds the groups before it. -/
def scan (index : Nat) (number : UInt32) : Bytes → Except Error (UInt32 × Nat)
  | [] => .error .incomplete
  | byte :: rest =>
    let bits := byte &&& 0x7F
    if index = maxLength - 1 ∧ 0x0F < bits then .error .overflow
    else
      let number := number ||| bits.toUInt32 <<< UInt32.ofNat (7 * index)
      if byte &&& 0x80 = 0 then .ok (number, index + 1)
      else if index = maxLength - 1 then .error .overflow
      else scan (index + 1) number rest

/-- Reads an integer from the front of a byte string, and tells how many bytes it takes. -/
def measure : Bytes → Except Error (UInt32 × Nat)
  | [] => .error .empty
  | byte :: rest => scan 0 0 (byte :: rest)

/-! ## Bits and numbers -/

theorem toNat_and_low (byte : UInt8) : (byte &&& 0x7F).toNat = byte.toNat % 128 := by
  rw [UInt8.toNat_and]
  exact Nat.and_two_pow_sub_one_eq_mod byte.toNat 7

theorem and_high_eq_zero_iff (byte : UInt8) : byte &&& 0x80 = 0 ↔ byte < 0x80 := by
  have all : ∀ number : Fin 256, number.val &&& 128 = 0 ↔ number.val < 128 := by
    decide +kernel
  rw [← UInt8.toNat_inj, UInt8.toNat_and, UInt8.lt_iff_toNat_lt]
  exact all ⟨byte.toNat, byte.toNat_lt⟩

/-- A group that is shifted above the groups before it is added to them. -/
theorem toNat_or_shift {index : Nat} {number : UInt32} {bits : UInt8} (place : index ≤ 4)
    (below : number.toNat < 128 ^ index) (fits : bits.toNat * 128 ^ index < 2 ^ 32) :
    (number ||| bits.toUInt32 <<< UInt32.ofNat (7 * index)).toNat =
      number.toNat + 128 ^ index * bits.toNat := by
  have power : 128 ^ index = 2 ^ (7 * index) := by rw [Nat.pow_mul]
  have shift : (UInt32.ofNat (7 * index)).toNat % 32 = 7 * index := by
    rw [UInt32.toNat_ofNat_of_lt' (by show 7 * index < 2 ^ 32; omega), Nat.mod_eq_of_lt (by omega)]
  rw [power] at below fits ⊢
  rw [UInt32.toNat_or, UInt32.toNat_shiftLeft, shift, UInt8.toNat_toUInt32, Nat.shiftLeft_eq,
    Nat.mod_eq_of_lt fits, Nat.or_comm, Nat.mul_comm, ← Nat.two_pow_add_eq_or_of_lt below,
    Nat.add_comm]

/-! ## The word and the count -/

theorem readGroups_length_lt {room number : Nat} {data rest : Bytes}
    (read : readGroups room data = .ok (number, rest)) : rest.length < data.length := by
  rcases groups_or_fails room data with ⟨bytes, behind, groups, rfl⟩ | ⟨short, high⟩ |
      ⟨initial, top, behind, rfl, rfl, high, large⟩
  · rw [readGroups_append groups] at read
    cases read
    have some := List.length_pos_iff.mpr (groups_ne_nil groups)
    rw [List.length_append]
    omega
  · rw [readGroups_incomplete short high] at read
    cases read
  · rw [readGroups_overflow high large] at read
    cases read

/-- What `readGroups` gives, with the groups that stand before it and the count that follows. -/
def counted (index : Nat) (number : UInt32) (data : Bytes) (read : Nat × Bytes) : UInt32 × Nat :=
  (UInt32.ofNat (number.toNat + 128 ^ index * read.1), index + (data.length - read.2.length))

theorem counted_final {index : Nat} {number : UInt32} {byte : UInt8} (rest : Bytes)
    (place : index ≤ 4) (below : number.toNat < 128 ^ index) (low : byte < 0x80)
    (fits : byte.toNat * 128 ^ index < 2 ^ 32) :
    (number ||| (byte &&& 0x7F).toUInt32 <<< UInt32.ofNat (7 * index), index + 1) =
      counted index number (byte :: rest) (byte.toNat, rest) := by
  have bits : (byte &&& 0x7F).toNat = byte.toNat := by
    rw [toNat_and_low, Nat.mod_eq_of_lt (toNat_lt_of_low low)]
  have joined := toNat_or_shift place below (by rw [bits]; exact fits)
  rw [bits] at joined
  rw [counted, ← joined, UInt32.ofNat_toNat, List.length_cons]
  congr 2
  exact (Nat.add_sub_cancel_left ..).symm

theorem low_of_top {byte : UInt8} (top : byte ≤ 0x0F) : byte < 0x80 :=
  Std.lt_of_le_of_lt top (by decide)

/-- The bits of the last byte with room are too large, or it goes on, if the byte is too large. -/
theorem top_iff (byte : UInt8) : byte ≤ 0x0F ↔ ¬ 0x0F < byte &&& 0x7F ∧ byte &&& 0x80 = 0 := by
  rw [and_high_eq_zero_iff, UInt8.lt_iff_toNat_lt, toNat_and_low, UInt8.lt_iff_toNat_lt,
    UInt8.le_iff_toNat_le]
  show byte.toNat ≤ 15 ↔ ¬ 15 < byte.toNat % 128 ∧ byte.toNat < 128
  omega

theorem counted_step {index : Nat} {number : UInt32} {byte : UInt8} {data rest : Bytes}
    {high : Nat} (shorter : rest.length < data.length) :
    counted index number (byte :: data) (byte.toNat % 128 + 128 * high, rest) =
      (UInt32.ofNat (number.toNat + 128 ^ index * (byte.toNat % 128) + 128 ^ (index + 1) * high),
        index + 1 + (data.length - rest.length)) := by
  simp only [counted, List.length_cons, Nat.pow_succ, Nat.mul_add, Nat.mul_assoc, Nat.add_assoc]
  congr 2
  omega

/-- The induction is on the room that is left: `index` groups are in the word already. -/
theorem scan_eq_readGroups {room index : Nat} {number : UInt32} (data : Bytes)
    (place : index + room = maxLength - 1) (below : number.toNat < 128 ^ index) :
    scan index number data = (readGroups room data).map (counted index number data) := by
  induction room generalizing index number data with
  | zero =>
    cases data with
    | nil => rfl
    | cons byte rest =>
      -- Four bits are left, and a byte that has more or goes on is refused at one of two places.
      have last : index = maxLength - 1 := place
      subst last
      simp only [scan, readGroups, true_and, if_true]
      by_cases top : byte ≤ 0x0F
      · obtain ⟨small, ends⟩ := (top_iff byte).mp top
        have number_le : byte.toNat ≤ 15 := UInt8.le_iff_toNat_le.mp top
        rw [if_neg small, if_pos ends, if_pos top]
        exact congrArg Except.ok (counted_final rest (by decide) below (low_of_top top)
          (by show byte.toNat * 128 ^ 4 < 2 ^ 32; omega))
      · rw [if_neg top]
        split
        · rfl
        · next small =>
          rw [if_neg fun ends => top ((top_iff byte).mpr ⟨small, ends⟩)]
          rfl
  | succ room ih =>
    cases data with
    | nil => rfl
    | cons byte rest =>
      have early : index ≠ maxLength - 1 := by omega
      have place_le : index ≤ 3 := by
        simp only [maxLength] at place
        omega
      have fits : ∀ bits < 128, bits * 128 ^ index < 2 ^ 32 := fun bits small =>
        calc bits * 128 ^ index ≤ 128 * 128 ^ 3 :=
              Nat.mul_le_mul (Nat.le_of_lt small) (Nat.pow_le_pow_right (by decide) place_le)
          _ < 2 ^ 32 := by decide
      have bits_lt : byte.toNat % 128 < 128 := Nat.mod_lt _ (by decide)
      simp only [scan, readGroups, early, false_and, if_false]
      by_cases low : byte < 0x80
      · rw [if_pos ((and_high_eq_zero_iff byte).mpr low), if_pos low]
        exact congrArg Except.ok
          (counted_final rest (by omega) below low (fits _ (toNat_lt_of_low low)))
      · -- With this group the word stays below the next place, which keeps the next shift clear.
        have room_left : (byte &&& 0x7F).toNat * 128 ^ index < 2 ^ 32 := by
          rw [toNat_and_low]
          exact fits _ bits_lt
        have joined := toNat_or_shift (by omega) below room_left
        rw [toNat_and_low] at joined
        have below_next : number.toNat + 128 ^ index * (byte.toNat % 128) < 128 ^ (index + 1) := by
          have bound := Nat.mul_le_mul_left (128 ^ index) (Nat.le_sub_one_of_lt bits_lt)
          rw [Nat.pow_succ]
          omega
        rw [if_neg fun ends => low ((and_high_eq_zero_iff byte).mp ends), if_neg low,
          ih rest (by omega) (by rw [joined]; exact below_next)]
        cases read : readGroups room rest with
        | error error => rfl
        | ok found =>
          show Except.ok (counted (index + 1) _ rest found) = Except.ok (counted ..)
          rw [counted_step (readGroups_length_lt read), counted, joined]

/-- The word is the integer that `decode` reads, so that no shift loses a bit. The count is what
`decode` takes off the front. -/
theorem measure_eq_decode (data : Bytes) :
    measure data = (decode data).map fun read => (read.1, data.length - read.2.length) := by
  cases data with
  | nil => rfl
  | cons byte rest =>
    have place : 0 + (maxLength - 1) = maxLength - 1 := Nat.zero_add _
    rw [measure, decode, scan_eq_readGroups _ place (by decide)]
    cases readGroups (maxLength - 1) (byte :: rest) with
    | error error => rfl
    | ok found =>
      show Except.ok (counted ..) = Except.ok (UInt32.ofNat found.1, _)
      rw [counted, UInt32.toNat_zero, Nat.zero_add, Nat.zero_add, Nat.pow_zero, Nat.one_mul]

/-- The count is the length of the spelling. -/
theorem measure_append {bytes : Bytes} {number : UInt32} (spells : Spells bytes number)
    (rest : Bytes) : measure (bytes ++ rest) = .ok (number, bytes.length) := by
  rw [measure_eq_decode, decode_append spells]
  simp [Except.map]

theorem measure_of_fails {data : Bytes} {error : Error} (fails : Fails data error) :
    measure data = .error error := by
  rw [measure_eq_decode, decode_of_fails fails]
  rfl

end SyncProbe.Varint
