import SyncProbe.CommandLine
import SyncProbe.Proofs.Except
import SyncProbe.Proofs.Text.Numerals

/-!
# Times to wait

A time to wait is read digit by digit, and given up at the first digit that makes it too large. So
no number is ever cut to 64 bits on the way. What is read is the number that the digits write in
decimal, however many zeros stand in front of it.

Results:
1. `readDigits_eq_ok_iff`: digits are read as the number they write, if it fits.
2. `readNumber_eq_ok_iff`: so are digits behind a plus sign.
3. `readTimeout_eq_ok_iff`, `readIdleTimeout_eq_ok_iff`: the times to wait are the numbers from 1
   on.
-/

namespace SyncProbe.CommandLine

/-- The number is one of 64 bits, and not zero. -/
structure IsTimeout (milliseconds : Nat) : Prop where
  positive : 0 < milliseconds
  bounded : milliseconds < timeoutBound

/-- The characters are digits that write the number in decimal. Zeros may stand in front. -/
structure Decimal (digits : List Char) (number : Nat) : Prop where
  some : digits ≠ []
  digital : ∀ c ∈ digits, c.isDigit
  value : Nat.ofDigitChars 10 digits 0 = number

/-- The characters write the number in decimal, maybe behind a plus sign. -/
inductive Denotes : List Char → Nat → Prop
  | plain {digits : List Char} {number : Nat} : Decimal digits number → Denotes digits number
  | signed {digits : List Char} {number : Nat} :
      Decimal digits number → Denotes ('+' :: digits) number

/-- The number that was read so far never shrinks, so it is too large as soon as a part of it is. -/
theorem readDigits_eq_ok_iff {value result : Nat} {cs : List Char} (small : value < timeoutBound) :
    readDigits value cs = .ok result ↔
      (∀ c ∈ cs, c.isDigit) ∧ Nat.ofDigitChars 10 cs value = result ∧ result < timeoutBound := by
  induction cs generalizing value with
  | nil =>
    rw [readDigits]
    constructor
    · intro reads
      cases reads
      exact ⟨nofun, rfl, small⟩
    · rintro ⟨_, rfl, _⟩
      rfl
  | cons c rest ih =>
    rw [readDigits, Nat.ofDigitChars_cons, Nat.mul_comm 10 value]
    cases digit : c.isDigit with
    | false =>
      constructor
      · intro reads
        cases reads
      · rintro ⟨digital, _⟩
        rw [digital c List.mem_cons_self] at digit
        cases digit
    | true =>
      simp only [Bool.not_true, Bool.false_eq_true, if_false]
      split
      · next large =>
        constructor
        · intro reads
          cases reads
        · rintro ⟨_, rfl, within⟩
          -- The whole number is at least as large as the part that was too large.
          have grows := Text.ofDigitChars_le rest (value * 10 + (c.toNat - '0'.toNat))
          exact absurd (Nat.lt_of_le_of_lt grows within) (Nat.not_lt.mpr large)
      · next within =>
        rw [ih (Nat.lt_of_not_le within), List.forall_mem_cons]
        simp only [digit, true_and]

theorem readNumber_eq_ok_iff {cs : List Char} {result : Nat} :
    readNumber cs = .ok result ↔ Denotes cs result ∧ result < timeoutBound := by
  have zero : 0 < timeoutBound := Nat.two_pow_pos 64
  unfold readNumber
  split
  · constructor
    · intro reads
      cases reads
    · rintro ⟨⟨decimal⟩, _⟩
      exact absurd rfl decimal.some
  · next c rest =>
    rw [readDigits_eq_ok_iff zero]
    constructor
    · rintro ⟨digital, value, within⟩
      exact ⟨.signed ⟨List.cons_ne_nil c rest, digital, value⟩, within⟩
    · rintro ⟨denotes, within⟩
      cases denotes with
      -- A plus sign is no digit, so it is the sign.
      | plain decimal => exact absurd (decimal.digital '+' List.mem_cons_self) (by decide)
      | signed decimal => exact ⟨decimal.digital, decimal.value, within⟩
  · next empty signed =>
    rw [readDigits_eq_ok_iff zero]
    constructor
    · rintro ⟨digital, value, within⟩
      exact ⟨.plain ⟨empty, digital, value⟩, within⟩
    · rintro ⟨denotes, within⟩
      cases denotes with
      | plain decimal => exact ⟨decimal.digital, decimal.value, within⟩
      | @signed digits _ decimal =>
        cases digits with
        | nil => exact absurd rfl decimal.some
        | cons c rest => exact absurd rfl (signed c rest)

theorem readTimeout_eq_ok_iff {text : String} {milliseconds : Nat} :
    readTimeout text = .ok milliseconds ↔
      Denotes text.toList milliseconds ∧ IsTimeout milliseconds := by
  unfold readTimeout
  rw [bind_eq_ok_iff]
  constructor
  · rintro ⟨value, reads, checks⟩
    obtain ⟨denotes, bounded⟩ := readNumber_eq_ok_iff.mp reads
    split at checks
    · cases checks
    · next positive =>
      cases checks
      exact ⟨denotes, Nat.pos_of_ne_zero positive, bounded⟩
  · rintro ⟨denotes, positive, bounded⟩
    refine ⟨milliseconds, readNumber_eq_ok_iff.mpr ⟨denotes, bounded⟩, ?_⟩
    rw [if_neg (Nat.ne_of_gt positive)]

theorem readText_eq_ok_iff {α : Type} {slot : Slot} {read : String → Except ValueError α}
    {bytes : Bytes} {value : α} :
    readText slot read bytes = .ok value ↔
      ∃ text, bytes = Utf8.encode text ∧ read text = .ok value := by
  unfold readText
  constructor
  · intro reads
    split at reads
    · cases reads
    · next text decodes =>
      exact ⟨text, Utf8.decode?_eq_some_iff.mp decodes, mapError_eq_ok_iff.mp reads⟩
  · rintro ⟨text, rfl, reads⟩
    rw [Utf8.decode?_encode]
    exact mapError_eq_ok_iff.mpr reads

/-- The texts that are times to wait are those that write a number of milliseconds in decimal, from
1 to the largest of 64 bits. -/
theorem readIdleTimeout_eq_ok_iff {bytes : Bytes} {milliseconds : Nat} :
    readIdleTimeout bytes = .ok milliseconds ↔
      ∃ text, bytes = Utf8.encode text ∧ Denotes text.toList milliseconds ∧
        IsTimeout milliseconds := by
  unfold readIdleTimeout
  rw [readText_eq_ok_iff]
  simp only [readTimeout_eq_ok_iff]

theorem isTimeout_of_readIdleTimeout {bytes : Bytes} {milliseconds : Nat}
    (reads : readIdleTimeout bytes = .ok milliseconds) : IsTimeout milliseconds := by
  obtain ⟨_, _, _, timeout⟩ := readIdleTimeout_eq_ok_iff.mp reads
  exact timeout

end SyncProbe.CommandLine
