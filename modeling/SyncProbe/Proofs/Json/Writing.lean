import SyncProbe.Json.Reader
import SyncProbe.Json.Writer
import SyncProbe.Proofs.Text.Numerals

/-!
# Written values

`Readable` is a value that a reader can give back: it has no doubles, its integers have 64 bits, and
its arrays and objects do not nest too deep. This module says what such a value looks like once it
is written: how each part starts, how long it is at least, and which characters it never has.

Results:
1. `escape_cases`: the forms of a character in a string.
2. `exists_front`, `exists_front_elements`, `exists_front_members`: how values start.
3. `visible_of_mem_chars`: a value is written on one line, without control characters.
-/

namespace SyncProbe.Json

/-! ## Values that can be read back -/

/-- `Readable depth json`: the value nests at most `depth` deep, and all its numbers are integers
that are read as integers. -/
inductive Readable : Nat → Json → Prop
  | null {depth : Nat} : Readable depth .null
  | bool {depth : Nat} {value : Bool} : Readable depth (.bool value)
  | integer {depth : Nat} {value : Int} : -(UInt64.size / 2 : Nat) ≤ value →
      value ≤ maxInteger → Readable depth (.number (.integer value))
  | string {depth : Nat} {value : String} : Readable depth (.string value)
  | array {depth : Nat} {elements : List Json} :
      (∀ element ∈ elements, Readable depth element) → Readable (depth + 1) (.array elements)
  | object {depth : Nat} {members : List (String × Json)} :
      (∀ member ∈ members, Readable depth member.2) → Readable (depth + 1) (.object members)

/-! ## Characters -/

/-- The character is not one of the controls that stand before the blank. -/
def Visible (c : Char) : Prop :=
  0x20 ≤ c.toNat

instance (c : Char) : Decidable (Visible c) :=
  inferInstanceAs (Decidable (0x20 ≤ c.toNat))

/-- The three forms of a character in a string: a short escape, a code point, or itself. -/
theorem escape_cases (c : Char) :
    (∃ d, escape c = ['\\', d] ∧ Visible d) ∨
    (c.toNat < 0x20 ∧
      escape c = ['\\', 'u', '0', '0', Hex.digit (c.toNat / 16), Hex.digit (c.toNat % 16)]) ∨
    (escape c = [c] ∧ Visible c) := by
  unfold escape
  repeat (split; · exact .inl ⟨_, rfl, by decide⟩)
  split
  · next control => exact .inr (.inl ⟨control, rfl⟩)
  · next other => exact .inr (.inr ⟨rfl, Nat.le_of_not_lt other⟩)

theorem escape_ne_nil (c : Char) : escape c ≠ [] := by
  rcases escape_cases c with ⟨d, form, _⟩ | ⟨_, form⟩ | ⟨form, _⟩ <;> rw [form] <;>
    exact List.cons_ne_nil _ _

theorem visible_of_isDigit {c : Char} (digit : c.isDigit) : Visible c :=
  Nat.le_trans (by decide) (Char.isDigit_iff_toNat.mp digit).1

theorem visible_digit {value : Nat} (small : value < 16) : Visible (Hex.digit value) := by
  have all : ∀ value : Fin 16, 0x20 ≤ (Hex.digit value).toNat := by decide
  exact all ⟨value, small⟩

theorem isBlank_of_isDigit {c : Char} (digit : c.isDigit) : isBlank c = false := by
  cases blank : isBlank c with
  | false => rfl
  | true =>
    simp only [isBlank, Bool.or_eq_true, decide_eq_true_eq] at blank
    rcases blank with ((rfl | rfl) | rfl) | rfl <;> cases digit

/-! ## Strings -/

theorem length_le_escaped (text : List Char) : text.length ≤ (text.flatMap escape).length := by
  induction text with
  | nil => exact Nat.le_refl 0
  | cons c text ih =>
    have := List.length_pos_iff.mpr (escape_ne_nil c)
    rw [List.flatMap_cons, List.length_append, List.length_cons]
    omega

theorem quoted_append (text : String) (rest : List Char) :
    quoted text ++ rest = '"' :: (text.toList.flatMap escape ++ '"' :: rest) := by
  simp [quoted]

theorem visible_of_mem_escape {c d : Char} (member : d ∈ escape c) : Visible d := by
  rcases escape_cases c with ⟨e, form, visible⟩ | ⟨control, form⟩ | ⟨form, visible⟩ <;>
    rw [form] at member <;> simp only [List.mem_cons, List.not_mem_nil, or_false] at member
  · rcases member with rfl | rfl
    · decide
    · exact visible
  · rcases member with rfl | rfl | rfl | rfl | rfl | rfl
    iterate 4 decide
    · exact visible_digit (by omega)
    · exact visible_digit (by omega)
  · rw [member]
    exact visible

theorem visible_of_mem_quoted {text : String} {c : Char} (member : c ∈ quoted text) :
    Visible c := by
  simp only [quoted, List.cons_append, List.mem_cons, List.mem_append, List.mem_flatMap,
    List.not_mem_nil, or_false] at member
  rcases member with rfl | ⟨d, _, inside⟩ | rfl
  · decide
  · exact visible_of_mem_escape inside
  · decide

/-! ## Arrays and objects -/

theorem elementsChars_cons_cons (value next : Json) (rest : List Json) :
    elementsChars (value :: next :: rest) = value.chars ++ ',' :: elementsChars (next :: rest) := by
  rw [elementsChars]
  exact List.cons_ne_nil next rest

theorem membersChars_cons_cons (name : String) (value : Json) (next : String × Json)
    (rest : List (String × Json)) :
    membersChars ((name, value) :: next :: rest) =
      quoted name ++ ':' :: value.chars ++ ',' :: membersChars (next :: rest) := by
  rw [membersChars]
  exact List.cons_ne_nil next rest

theorem length_le_elementsChars (elements : List Json)
    (fronts : ∀ value ∈ elements, value.chars ≠ []) :
    elements.length ≤ (elementsChars elements).length := by
  induction elements with
  | nil => exact Nat.le_refl 0
  | cons value elements ih =>
    have := List.length_pos_iff.mpr (fronts value List.mem_cons_self)
    have := ih fun value member => fronts value (List.mem_cons_of_mem _ member)
    cases elements with
    | nil => rwa [elementsChars]
    | cons next others =>
      have written : (elementsChars (value :: next :: others)).length =
          value.chars.length + ((elementsChars (next :: others)).length + 1) := by
        rw [elementsChars_cons_cons, List.length_append, List.length_cons]
      rw [List.length_cons, written]
      omega

theorem length_le_membersChars (members : List (String × Json)) :
    members.length ≤ (membersChars members).length := by
  induction members with
  | nil => exact Nat.le_refl 0
  | cons member members ih =>
    obtain ⟨name, value⟩ := member
    cases members with
    | nil => simp [membersChars, quoted]
    | cons next others =>
      have written : (membersChars ((name, value) :: next :: others)).length =
          (quoted name ++ ':' :: value.chars).length +
            ((membersChars (next :: others)).length + 1) := by
        rw [membersChars_cons_cons, List.length_append, List.length_cons]
      rw [List.length_cons, written]
      omega

theorem mem_elementsChars {elements : List Json} {c : Char} (member : c ∈ elementsChars elements) :
    c = ',' ∨ ∃ value ∈ elements, c ∈ value.chars := by
  induction elements with
  | nil => cases member
  | cons value elements ih =>
    cases elements with
    | nil => exact .inr ⟨value, List.mem_cons_self, by rwa [elementsChars] at member⟩
    | cons next others =>
      rw [elementsChars_cons_cons, List.mem_append, List.mem_cons] at member
      rcases member with inside | comma | later
      · exact .inr ⟨value, List.mem_cons_self, inside⟩
      · exact .inl comma
      · rcases ih later with comma | ⟨held, among, inside⟩
        · exact .inl comma
        · exact .inr ⟨held, List.mem_cons_of_mem _ among, inside⟩

theorem mem_membersChars {members : List (String × Json)} {c : Char}
    (inside : c ∈ membersChars members) :
    (c = ',' ∨ c = ':') ∨ ∃ member ∈ members, c ∈ quoted member.1 ∨ c ∈ member.2.chars := by
  induction members with
  | nil => cases inside
  | cons member members ih =>
    obtain ⟨name, value⟩ := member
    cases members with
    | nil =>
      rw [membersChars, List.mem_append, List.mem_cons] at inside
      rcases inside with front | colon | behind
      · exact .inr ⟨_, List.mem_cons_self, .inl front⟩
      · exact .inl (.inr colon)
      · exact .inr ⟨_, List.mem_cons_self, .inr behind⟩
    | cons next others =>
      rw [membersChars_cons_cons, List.mem_append, List.mem_append, List.mem_cons,
        List.mem_cons] at inside
      rcases inside with (front | colon | behind) | comma | later
      · exact .inr ⟨_, List.mem_cons_self, .inl front⟩
      · exact .inl (.inr colon)
      · exact .inr ⟨_, List.mem_cons_self, .inr behind⟩
      · exact .inl (.inl comma)
      · rcases ih later with sign | ⟨held, among, inside⟩
        · exact .inl sign
        · exact .inr ⟨held, List.mem_cons_of_mem _ among, inside⟩

/-! ## Values -/

/-- A value does not start with a blank or the end of an array. -/
theorem exists_front {depth : Nat} {json : Json} (readable : Readable depth json) :
    ∃ c cs, json.chars = c :: cs ∧ isBlank c = false ∧ c ≠ ']' := by
  cases readable with
  | null | string | array | object => exact ⟨_, _, rfl, by decide, by decide⟩
  | @bool _ value => cases value <;> exact ⟨_, _, rfl, by decide, by decide⟩
  | @integer _ value =>
    by_cases negative : value < 0
    · exact ⟨'-', _, if_pos negative, by decide, by decide⟩
    · obtain ⟨c, cs, front, digit, _⟩ := Text.head_toDigits value.natAbs
      refine ⟨c, cs, (if_neg negative).trans front, isBlank_of_isDigit digit, ?_⟩
      rintro rfl
      cases digit

theorem exists_front_elements {value : Json} (elements : List Json) (rest : List Char)
    (readable : Readable depth value) :
    ∃ c cs, elementsChars (value :: elements) ++ rest = c :: cs ∧ isBlank c = false ∧
      c ≠ ']' := by
  obtain ⟨c, cs, front, plain, inside⟩ := exists_front readable
  cases elements with
  | nil => exact ⟨c, cs ++ rest, by rw [elementsChars, front]; rfl, plain, inside⟩
  | cons => exact ⟨c, _, by rw [elementsChars_cons_cons, front]; rfl, plain, inside⟩

theorem exists_front_members (member : String × Json) (members : List (String × Json))
    (rest : List Char) :
    ∃ cs, membersChars (member :: members) ++ rest = '"' :: cs := by
  obtain ⟨name, value⟩ := member
  cases members with
  | nil => exact ⟨_, by rw [membersChars, List.append_assoc, quoted_append]⟩
  | cons =>
    exact ⟨_, by rw [membersChars_cons_cons, List.append_assoc, List.append_assoc, quoted_append]⟩

/-- A value is written on one line, without controls. -/
theorem visible_of_mem_chars {depth : Nat} {json : Json} (readable : Readable depth json) {c : Char}
    (member : c ∈ json.chars) : Visible c := by
  induction readable with
  | null =>
    simp only [chars, List.mem_cons, List.not_mem_nil, or_false] at member
    rcases member with rfl | rfl | rfl | rfl <;> decide
  | @bool _ value =>
    cases value <;> simp only [chars, List.mem_cons, List.not_mem_nil, or_false] at member
    · rcases member with rfl | rfl | rfl | rfl | rfl <;> decide
    · rcases member with rfl | rfl | rfl | rfl <;> decide
  | @integer _ value =>
    rw [chars, numberChars, integerChars] at member
    split at member
    · rcases List.mem_cons.mp member with rfl | digit
      · decide
      · exact visible_of_isDigit (Text.isDigit_of_mem_numeral digit)
    · exact visible_of_isDigit (Text.isDigit_of_mem_numeral member)
  | string => exact visible_of_mem_quoted member
  | array _ ih =>
    simp only [chars, List.cons_append, List.mem_cons, List.mem_append, List.not_mem_nil,
      or_false] at member
    rcases member with rfl | inside | rfl
    · decide
    · rcases mem_elementsChars inside with rfl | ⟨value, among, inside⟩
      · decide
      · exact ih value among inside
    · decide
  | object _ ih =>
    simp only [chars, List.cons_append, List.mem_cons, List.mem_append, List.not_mem_nil,
      or_false] at member
    rcases member with rfl | inside | rfl
    · decide
    · rcases mem_membersChars inside with (rfl | rfl) | ⟨held, among, inside | inside⟩
      · decide
      · decide
      · exact visible_of_mem_quoted inside
      · exact ih held among inside
    · decide

end SyncProbe.Json
