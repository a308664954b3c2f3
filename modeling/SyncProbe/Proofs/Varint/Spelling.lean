import Mathlib.Algebra.GroupWithZero.Nat
import SyncProbe.Varint

/-!
# Which bytes spell an integer

A spelling is a run of bytes with the high bit set, then one byte without it. At most five bytes are
taken, and the fifth one holds the top four bits of the integer. The integer is the sum of the
seven-bit groups, least significant first.

Results:
1. `decode_eq_ok_iff`: `decode` reads exactly the spellings, and gives back what follows them.
2. `decode_eq_error_iff`: the bytes that start with no spelling, and what is wrong with each.
3. `spells_encode`: `encode` writes a spelling of its integer. With 1, `decode` reads it back
   whatever comes behind (`decode_encode_append`).
4. `spelling_unique`: no spelling is the start of another one.
-/

namespace SyncProbe.Varint

/-! ## The grammar -/

/-- The integer that groups of seven bits make, least significant first. -/
def value : Bytes → Nat
  | [] => 0
  | byte :: rest => byte.toNat % 128 + 128 * value rest

/-- `Groups room bytes`: only the last byte ends an integer, and at most `room` bytes stand before
it. If all of these are there, the last byte holds four bits. -/
def Groups (room : Nat) (bytes : Bytes) : Prop :=
  ∃ initial final, bytes = initial ++ [final] ∧ (∀ byte ∈ initial, 0x80 ≤ byte) ∧ final < 0x80 ∧
    initial.length ≤ room ∧ (initial.length = room → final ≤ 0x0F)

/-- The bytes are a spelling of the integer. -/
def Spells (bytes : Bytes) (number : UInt32) : Prop :=
  Groups (maxLength - 1) bytes ∧ value bytes = number.toNat

/-- What is wrong with bytes that start with no spelling. -/
def Fails (data : Bytes) : Error → Prop
  | .empty => data = []
  | .incomplete => data ≠ [] ∧ data.length < maxLength ∧ ∀ byte ∈ data, 0x80 ≤ byte
  | .overflow => ∃ initial fifth rest, data = initial ++ fifth :: rest ∧
      initial.length = maxLength - 1 ∧ (∀ byte ∈ initial, 0x80 ≤ byte) ∧ 0x0F < fifth

/-! ## One group after another -/

theorem high_of_not_low {byte : UInt8} (notLow : ¬ byte < 0x80) : 0x80 ≤ byte := by
  simpa using notLow

theorem toNat_lt_of_low {byte : UInt8} (low : byte < 0x80) : byte.toNat < 128 := by
  simpa [UInt8.lt_iff_toNat_lt] using low

theorem toNat_ofNat_of_lt {number : Nat} (small : number < 256) :
    (UInt8.ofNat number).toNat = number :=
  UInt8.toNat_ofNat_of_lt' small

theorem groups_ne_nil {room : Nat} {bytes : Bytes} (groups : Groups room bytes) : bytes ≠ [] := by
  obtain ⟨initial, final, rfl, _⟩ := groups
  simp

theorem groups_length_le {room : Nat} {bytes : Bytes} (groups : Groups room bytes) :
    bytes.length ≤ room + 1 := by
  obtain ⟨initial, final, rfl, _, _, fits, _⟩ := groups
  simp only [List.length_append, List.length_singleton]
  omega

theorem groups_zero_iff {bytes : Bytes} :
    Groups 0 bytes ↔ ∃ byte, bytes = [byte] ∧ byte ≤ 0x0F := by
  constructor
  · rintro ⟨initial, final, rfl, _, _, fits, top⟩
    have none : initial = [] := List.length_eq_zero_iff.mp (Nat.le_zero.mp fits)
    subst none
    exact ⟨final, rfl, top rfl⟩
  · rintro ⟨byte, rfl, top⟩
    refine ⟨[], byte, rfl, by simp, ?_, Nat.le_refl 0, fun _ => top⟩
    exact Std.lt_of_le_of_lt top (by decide)

theorem groups_cons_iff {room : Nat} {byte : UInt8} {bytes : Bytes} :
    Groups (room + 1) (byte :: bytes) ↔
      (byte < 0x80 ∧ bytes = []) ∨ (0x80 ≤ byte ∧ Groups room bytes) := by
  constructor
  · rintro ⟨initial, final, equal, high, low, fits, top⟩
    cases initial with
    | nil =>
      simp only [List.nil_append, List.cons.injEq] at equal
      obtain ⟨rfl, rfl⟩ := equal
      exact Or.inl ⟨low, rfl⟩
    | cons first others =>
      simp only [List.cons_append, List.cons.injEq] at equal
      obtain ⟨rfl, rfl⟩ := equal
      simp only [List.length_cons, Nat.add_le_add_iff_right, Nat.add_right_cancel_iff] at fits top
      exact Or.inr ⟨high _ (by simp), others, final, rfl,
        fun other member => high other (by simp [member]), low, fits, top⟩
  · rintro (⟨low, rfl⟩ | ⟨high, initial, final, rfl, highs, low, fits, top⟩)
    · exact ⟨[], byte, rfl, by simp, low, by simp, by simp⟩
    · refine ⟨byte :: initial, final, rfl, ?_, low, by simpa using fits, by simpa using top⟩
      intro other member
      rcases List.mem_cons.mp member with rfl | member
      · exact high
      · exact highs other member

/-- Groups stay below the bound that their number and the four bits of the last one set. -/
theorem value_lt {room : Nat} {bytes : Bytes} (groups : Groups room bytes) :
    value bytes < 16 * 128 ^ room := by
  induction room generalizing bytes with
  | zero =>
    obtain ⟨byte, rfl, top⟩ := groups_zero_iff.mp groups
    have small : byte.toNat ≤ 15 := by simpa [UInt8.le_iff_toNat_le] using top
    simp only [value]
    omega
  | succ room ih =>
    have positive : 0 < 128 ^ room := Nat.pow_pos (by decide)
    cases bytes with
    | nil => exact absurd rfl (groups_ne_nil groups)
    | cons byte bytes =>
      simp only [value]
      rw [Nat.pow_succ]
      rcases groups_cons_iff.mp groups with ⟨_, rfl⟩ | ⟨_, groups⟩
      · simp only [value]
        omega
      · -- One more group makes the bound 128 times as large, and the value at most that and 127.
        have smaller := ih groups
        omega

/-! ## Reading -/

/-- Groups are read whatever comes behind them. -/
theorem readGroups_append {room : Nat} {bytes : Bytes} (groups : Groups room bytes)
    (rest : Bytes) : readGroups room (bytes ++ rest) = .ok (value bytes, rest) := by
  induction room generalizing bytes with
  | zero =>
    obtain ⟨byte, rfl, top⟩ := groups_zero_iff.mp groups
    have small : byte.toNat ≤ 15 := by simpa [UInt8.le_iff_toNat_le] using top
    simp only [List.singleton_append, readGroups, if_pos top, value]
    rw [Nat.mod_eq_of_lt (by omega), Nat.mul_zero, Nat.add_zero]
  | succ room ih =>
    cases bytes with
    | nil => exact absurd rfl (groups_ne_nil groups)
    | cons byte bytes =>
      rw [List.cons_append, readGroups]
      rcases groups_cons_iff.mp groups with ⟨low, rfl⟩ | ⟨high, groups⟩
      · rw [if_pos low, value, value, Nat.mod_eq_of_lt (toNat_lt_of_low low)]
        rfl
      · rw [if_neg (by simpa using high), ih groups]
        rfl

/-- Bytes that all go on end too early for an integer. -/
theorem readGroups_incomplete {room : Nat} {data : Bytes} (short : data.length ≤ room)
    (high : ∀ byte ∈ data, 0x80 ≤ byte) : readGroups room data = .error .incomplete := by
  induction room generalizing data with
  | zero =>
    have none : data = [] := List.length_eq_zero_iff.mp (Nat.le_zero.mp short)
    subst none
    rfl
  | succ room ih =>
    cases data with
    | nil => rfl
    | cons byte data =>
      have first : ¬ byte < 0x80 := by simpa using high byte (by simp)
      rw [readGroups, if_neg first, ih (by simpa using short) fun other member =>
        high other (by simp [member])]
      rfl

/-- A last byte that holds more than its four bits is refused. -/
theorem readGroups_overflow {initial : Bytes} (high : ∀ byte ∈ initial, 0x80 ≤ byte)
    {top : UInt8} (large : 0x0F < top) (rest : Bytes) :
    readGroups initial.length (initial ++ top :: rest) = .error .overflow := by
  induction initial with
  | nil => rw [List.nil_append, List.length_nil, readGroups, if_neg (by simpa using large)]
  | cons byte initial ih =>
    have first : ¬ byte < 0x80 := by simpa using high byte (by simp)
    rw [List.cons_append, List.length_cons, readGroups, if_neg first,
      ih fun other member => high other (by simp [member])]
    rfl

/-- Bytes start with groups, or they all go on, or the last byte with room is too large. -/
theorem groups_or_fails (room : Nat) (data : Bytes) :
    (∃ bytes rest, Groups room bytes ∧ data = bytes ++ rest) ∨
    (data.length ≤ room ∧ ∀ byte ∈ data, 0x80 ≤ byte) ∨
    (∃ initial top rest, data = initial ++ top :: rest ∧ initial.length = room ∧
      (∀ byte ∈ initial, 0x80 ≤ byte) ∧ 0x0F < top) := by
  induction room generalizing data with
  | zero =>
    cases data with
    | nil => exact Or.inr (Or.inl ⟨Nat.le_refl 0, by simp⟩)
    | cons byte rest =>
      by_cases top : byte ≤ 0x0F
      · exact Or.inl ⟨[byte], rest, groups_zero_iff.mpr ⟨byte, rfl, top⟩, rfl⟩
      · exact Or.inr (Or.inr ⟨[], byte, rest, rfl, rfl, by simp, by simpa using top⟩)
  | succ room ih =>
    cases data with
    | nil => exact Or.inr (Or.inl ⟨Nat.zero_le _, by simp⟩)
    | cons byte data =>
      by_cases low : byte < 0x80
      · exact Or.inl ⟨[byte], data, groups_cons_iff.mpr (Or.inl ⟨low, rfl⟩), rfl⟩
      -- The byte goes on, and what becomes of the rest with one byte less becomes of all.
      have high : 0x80 ≤ byte := high_of_not_low low
      rcases ih data with ⟨bytes, rest, groups, rfl⟩ | ⟨short, highs⟩ |
          ⟨initial, top, rest, rfl, full, highs, large⟩
      · exact Or.inl ⟨byte :: bytes, rest, groups_cons_iff.mpr (Or.inr ⟨high, groups⟩), rfl⟩
      · refine Or.inr (Or.inl ⟨by simpa using short, ?_⟩)
        simpa using ⟨high, highs⟩
      · refine Or.inr (Or.inr ⟨byte :: initial, top, rest, rfl, by simpa using full, ?_, large⟩)
        simpa using ⟨high, highs⟩

/-- A spelling is read whatever comes behind it. -/
theorem decode_append {bytes : Bytes} {number : UInt32} (spells : Spells bytes number)
    (rest : Bytes) : decode (bytes ++ rest) = .ok (number, rest) := by
  obtain ⟨groups, same⟩ := spells
  cases bytes with
  | nil => exact absurd rfl (groups_ne_nil groups)
  | cons byte bytes =>
    have read := readGroups_append groups rest
    rw [List.cons_append] at read ⊢
    rw [decode, read, same]
    show Except.ok (UInt32.ofNat number.toNat, rest) = _
    rw [UInt32.ofNat_toNat]

theorem decode_of_fails {data : Bytes} {error : Error} (fails : Fails data error) :
    decode data = .error error := by
  cases error with
  | empty =>
    have none : data = [] := fails
    subst none
    rfl
  | incomplete =>
    obtain ⟨some, short, high⟩ := fails
    cases data with
    | nil => exact absurd rfl some
    | cons byte data =>
      rw [decode, readGroups_incomplete (Nat.le_sub_one_of_lt short) high]
      rfl
  | overflow =>
    obtain ⟨initial, fifth, rest, rfl, full, high, large⟩ := fails
    have read := readGroups_overflow high large rest
    rw [full] at read
    cases initial with
    | nil => exact absurd full (by decide)
    | cons byte initial =>
      rw [List.cons_append] at read ⊢
      rw [decode, read]
      rfl

theorem exists_spells {bytes : Bytes} (groups : Groups (maxLength - 1) bytes) :
    ∃ number, Spells bytes number := by
  have small : value bytes < 2 ^ 32 := value_lt groups
  exact ⟨UInt32.ofNat (value bytes), groups, (UInt32.toNat_ofNat_of_lt' small).symm⟩

/-- Bytes start with a spelling, or something is wrong with them. -/
theorem spells_or_fails (data : Bytes) :
    (∃ bytes number rest, Spells bytes number ∧ data = bytes ++ rest) ∨
    ∃ error, Fails data error := by
  rcases groups_or_fails (maxLength - 1) data with ⟨bytes, rest, groups, rfl⟩ | ⟨short, high⟩ |
      ⟨initial, top, rest, rfl, full, high, large⟩
  · obtain ⟨number, spells⟩ := exists_spells groups
    exact Or.inl ⟨bytes, number, rest, spells, rfl⟩
  · by_cases none : data = []
    · exact Or.inr ⟨.empty, none⟩
    · exact Or.inr ⟨.incomplete, none, Nat.lt_add_one_of_le short, high⟩
  · exact Or.inr ⟨.overflow, initial, top, rest, rfl, full, high, large⟩

/-- Exactly the spellings are read. -/
theorem decode_eq_ok_iff {data rest : Bytes} {number : UInt32} :
    decode data = .ok (number, rest) ↔ ∃ bytes, Spells bytes number ∧ data = bytes ++ rest := by
  constructor
  · intro read
    rcases spells_or_fails data with ⟨bytes, other, behind, spells, rfl⟩ | ⟨error, fails⟩
    · rw [decode_append spells] at read
      cases read
      exact ⟨bytes, spells, rfl⟩
    · rw [decode_of_fails fails] at read
      cases read
  · rintro ⟨bytes, spells, rfl⟩
    exact decode_append spells rest

/-- A superfluous zero group. -/
example : decode [0x81, 0x00, 0x07] = .ok (1, [0x07]) := by
  rfl

/-- Exactly the bytes that start with no spelling are refused, each for what is wrong with it. -/
theorem decode_eq_error_iff {data : Bytes} {error : Error} :
    decode data = .error error ↔ Fails data error := by
  refine ⟨fun refused => ?_, decode_of_fails⟩
  rcases spells_or_fails data with ⟨bytes, number, rest, spells, rfl⟩ | ⟨other, fails⟩
  · rw [decode_append spells] at refused
    cases refused
  · rw [decode_of_fails fails] at refused
    cases refused
    exact fails

/-- Of two spellings that start the same bytes, neither is longer. -/
theorem spelling_unique {bytes bytes' rest rest' : Bytes} {number number' : UInt32}
    (spells : Spells bytes number) (spells' : Spells bytes' number')
    (equal : bytes ++ rest = bytes' ++ rest') :
    bytes = bytes' ∧ number = number' ∧ rest = rest' := by
  have read := decode_append spells rest
  rw [equal, decode_append spells'] at read
  cases read
  exact ⟨List.append_cancel_right equal, rfl, rfl⟩

/-! ## Writing -/

theorem groups_spell {room number : Nat} (small : number < 16 * 128 ^ room) :
    Groups room (groups room number) ∧ value (groups room number) = number := by
  induction room generalizing number with
  | zero =>
    have byte : (UInt8.ofNat number).toNat = number := toNat_ofNat_of_lt (by omega)
    refine ⟨groups_zero_iff.mpr ⟨_, rfl, ?_⟩, ?_⟩
    · rw [UInt8.le_iff_toNat_le, byte]
      exact Nat.le_of_lt_succ (by simpa using small)
    · simp only [groups, value, byte]
      omega
  | succ room ih =>
    rw [groups]
    split
    · next low =>
      have byte : (UInt8.ofNat number).toNat = number := toNat_ofNat_of_lt (by omega)
      refine ⟨groups_cons_iff.mpr (Or.inl ⟨?_, rfl⟩), ?_⟩
      · rw [UInt8.lt_iff_toNat_lt, byte]
        exact low
      · simp only [value, byte]
        omega
    · have byte : (UInt8.ofNat (number % 128 + 128)).toNat = number % 128 + 128 :=
        toNat_ofNat_of_lt (by omega)
      have smaller : number / 128 < 16 * 128 ^ room := by
        rw [Nat.pow_succ] at small
        omega
      obtain ⟨rest, same⟩ := ih smaller
      refine ⟨groups_cons_iff.mpr (Or.inr ⟨?_, rest⟩), ?_⟩
      · rw [UInt8.le_iff_toNat_le, byte]
        exact Nat.le_add_left _ _
      · simp only [value, byte, same]
        omega

/-- What is written of an integer spells it. -/
theorem spells_encode (number : UInt32) : Spells (encode number) number :=
  groups_spell (show number.toNat < 16 * 128 ^ (maxLength - 1) from number.toNat_lt)

/-- An integer is read back whatever comes behind it. -/
theorem decode_encode_append (number : UInt32) (rest : Bytes) :
    decode (encode number ++ rest) = .ok (number, rest) :=
  decode_append (spells_encode number) rest

end SyncProbe.Varint
