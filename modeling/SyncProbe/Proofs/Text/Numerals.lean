import SyncProbe.Text.Split

/-!
# Decimal numerals

A number that stands in a text ends where its digits end. So the text behind the front of two texts
tells the numbers apart, unless a digit follows one of them.

Results:
1. `ofDigitChars_le`: digits only make a number larger.
2. `head_toDigits`: a numeral starts with a digit, and with a zero only if it is zero.
3. `numeral_append_inj`: a numeral before something that is no digit is read in one way.
4. `text_numeral_inj`, `text_last_numeral_inj`: so is a number in a text.
-/

namespace SyncProbe.Text

/-- The characters do not start with a digit. -/
def EndsNumeral (cs : List Char) : Prop :=
  ∀ c ∈ cs.head?, c.isDigit = false

instance (cs : List Char) : Decidable (EndsNumeral cs) :=
  match cs with
  | [] => isTrue (by simp [EndsNumeral])
  | c :: _ => decidable_of_iff (c.isDigit = false) (by simp [EndsNumeral])

theorem ofDigitChars_le (digits : List Char) (value : Nat) :
    value ≤ Nat.ofDigitChars 10 digits value := by
  rw [Nat.ofDigitChars_eq_ofDigitChars_zero]
  have scale : 1 * value ≤ 10 ^ digits.length * value :=
    Nat.mul_le_mul_right value (Nat.one_le_pow _ _ (by decide))
  omega

theorem isDigit_of_mem_numeral {n : Nat} {c : Char} (member : c ∈ Nat.toDigits 10 n) :
    c.isDigit :=
  Nat.isDigit_of_mem_toDigits (by decide) (by decide) member

theorem head_toDigits (n : Nat) :
    ∃ c rest, Nat.toDigits 10 n = c :: rest ∧ c.isDigit ∧ (c = '0' → n = 0) := by
  induction n using Nat.strongRecOn with
  | ind n ih =>
    by_cases small : n < 10
    · refine ⟨n.digitChar, [], Nat.toDigits_of_lt_base small, ?_, Nat.digitChar_eq_zero.mp⟩
      rw [Nat.isDigit_digitChar]
      exact decide_eq_true small
    · obtain ⟨c, rest, front, digit, zero⟩ := ih (n / 10) (by omega)
      refine ⟨c, rest ++ [Nat.digitChar (n % 10)], ?_, digit, fun leads => ?_⟩
      · rw [Nat.toDigits_of_base_le (by decide) (Nat.le_of_not_lt small), front]
        rfl
      · have := zero leads
        omega

/-- The longest run of digits at the front is the numeral. -/
theorem takeWhile_numeral_append {n : Nat} {rest : List Char} (ends : EndsNumeral rest) :
    (Nat.toDigits 10 n ++ rest).takeWhile Char.isDigit = Nat.toDigits 10 n := by
  rw [List.takeWhile_append_of_pos fun c member => isDigit_of_mem_numeral member]
  cases rest with
  | nil => simp
  | cons c rest => simp [ends c rfl]

theorem numeral_append_inj {m n : Nat} {s t : List Char} (endsLeft : EndsNumeral s)
    (endsRight : EndsNumeral t) (same : Nat.toDigits 10 m ++ s = Nat.toDigits 10 n ++ t) :
    m = n ∧ s = t := by
  have digits : Nat.toDigits 10 m = Nat.toDigits 10 n := by
    rw [← takeWhile_numeral_append endsLeft, same, takeWhile_numeral_append endsRight]
  constructor
  · rw [← Nat.ofDigitChars_ten_toDigits (n := m), digits, Nat.ofDigitChars_ten_toDigits]
  · rw [digits] at same
    exact List.append_cancel_left same

/-! ## Numbers in texts -/

/-- A text that goes on with a fixed part goes on as that part does. -/
theorem endsNumeral_append {part : String} {c : Char} (front : part.toList.head? = some c)
    (other : c.isDigit = false) (rest : String) : EndsNumeral (part ++ rest).toList := by
  intro d first
  rw [String.toList_append, List.head?_append, front] at first
  cases first
  exact other

/-- A number between fixed parts of a text is read in one way. -/
theorem text_numeral_inj {before : String} {m n : Nat} {s t : String}
    (endsLeft : EndsNumeral s.toList) (endsRight : EndsNumeral t.toList)
    (same : before ++ m.repr ++ s = before ++ n.repr ++ t) : m = n ∧ s = t := by
  have chars := congrArg String.toList same
  simp only [String.toList_append, Nat.toList_repr, List.append_assoc] at chars
  obtain ⟨number, rest⟩ := numeral_append_inj endsLeft endsRight (List.append_cancel_left chars)
  exact ⟨number, String.toList_inj.mp rest⟩

/-- So is a number at the end of a text. -/
theorem text_last_numeral_inj {before : String} {m n : Nat}
    (same : before ++ m.repr = before ++ n.repr) : m = n := by
  have ended : before ++ m.repr ++ "" = before ++ n.repr ++ "" := by
    rw [String.append_empty, String.append_empty]
    exact same
  exact (text_numeral_inj (by decide) (by decide) ended).1

end SyncProbe.Text
