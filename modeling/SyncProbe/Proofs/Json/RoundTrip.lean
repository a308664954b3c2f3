import SyncProbe.Proofs.Json.Members
import SyncProbe.Proofs.Json.Writing

/-!
# Reading what was written

A readable value is read back as itself, but for the order of members. The proof follows the
readers: each one takes exactly the characters that the writer put there, whatever follows them.
Only a number needs to know what follows, since it must not be read on.

Results:
1. `readNumber_numeral`, `readString_escaped`, `readArray_written`, `readObject_written`: the parts
   of a value.
2. `readValue_chars`, `parse_text`: values and whole texts.
3. `sorted_eq_of_text_eq`: a text has one value.
-/

namespace SyncProbe.Json

/-! ## What follows a value -/

/-- What may follow a value inside of a text. -/
def Ends : List Char → Prop
  | [] => True
  | c :: _ => c = ',' ∨ c = ']' ∨ c = '}'

theorem ends_comma (rest : List Char) : Ends (',' :: rest) :=
  .inl rfl

theorem ends_elements (rest : List Char) : Ends (']' :: rest) :=
  .inr (.inl rfl)

theorem ends_members (rest : List Char) : Ends ('}' :: rest) :=
  .inr (.inr rfl)

theorem startsWithDigit_of_ends {rest : List Char} (ends : Ends rest) :
    startsWithDigit rest = false := by
  cases rest with
  | nil => rfl
  | cons c rest => rcases ends with rfl | rfl | rfl <;> rfl

/-! ## Numbers -/

theorem readDigits_append {limit value : Nat} {digits rest : List Char} (count : Nat)
    (digital : ∀ c ∈ digits, c.isDigit) (ends : startsWithDigit rest = false)
    (within : Nat.ofDigitChars 10 digits value ≤ limit) :
    readDigits limit value count (digits ++ rest) =
      ⟨Nat.ofDigitChars 10 digits value, count + digits.length, rest⟩ := by
  induction digits generalizing value count with
  | nil =>
    cases rest with
    | nil => rfl
    | cons c rest =>
      have other : digit? c = none := if_neg (by simpa [startsWithDigit] using ends)
      rw [List.nil_append, readDigits, other]
      rfl
  | cons c digits ih =>
    have digit : digit? c = some (c.toNat - '0'.toNat) := if_pos (digital c List.mem_cons_self)
    rw [Nat.ofDigitChars_cons, Nat.mul_comm] at within ⊢
    have fits : ¬ limit < value * 10 + (c.toNat - '0'.toNat) :=
      Nat.not_lt.mpr (Nat.le_trans (Text.ofDigitChars_le digits _) within)
    rw [List.cons_append, readDigits, digit]
    simp only [if_neg fits]
    rw [ih (count + 1) (fun d member => digital d (List.mem_cons_of_mem c member)) within,
      List.length_cons]
    congr 1
    omega

theorem readAfterInteger_of_ends {rest : List Char} (negative : Bool) (value : Nat)
    (ends : Ends rest) :
    readAfterInteger negative value rest = wholeNumber negative value rest := by
  cases rest with
  | nil => rfl
  | cons c rest => rcases ends with rfl | rfl | rfl <;> rfl

theorem readNumber_numeral {n : Nat} {rest : List Char} (negative : Bool) (within : n ≤ maxInteger)
    (ends : Ends rest) :
    readNumber negative (Nat.toDigits 10 n ++ rest) = wholeNumber negative n rest := by
  have stop := startsWithDigit_of_ends ends
  obtain ⟨c, digits, front, digit, zero⟩ := Text.head_toDigits n
  by_cases leads : c = '0'
  · have single := zero leads
    subst single
    rw [Nat.toDigits_zero, List.singleton_append, readNumber, stop]
    exact readAfterInteger_of_ends negative 0 ends
  · have whole : readDigits maxInteger 0 0 (Nat.toDigits 10 n ++ rest) =
        ⟨n, 0 + (Nat.toDigits 10 n).length, rest⟩ := by
      rw [readDigits_append 0 (fun c member => Text.isDigit_of_mem_numeral member) stop,
        Nat.ofDigitChars_ten_toDigits]
      rw [Nat.ofDigitChars_ten_toDigits]
      exact within
    rw [front, List.cons_append] at whole ⊢
    unfold readNumber
    split
    · next nothing => cases nothing
    · next zero => exact absurd (List.cons.inj zero).1 leads
    · next other same =>
      obtain ⟨rfl, rfl⟩ := List.cons.inj same
      rw [if_pos digit, whole]
      simp only [stop, Bool.false_eq_true, if_false]
      exact readAfterInteger_of_ends negative n ends

theorem readNumberValue_integer {value : Int} {rest : List Char} (ends : Ends rest)
    (low : -(UInt64.size / 2 : Nat) ≤ value) (high : value ≤ maxInteger) :
    (value < 0 → readNumberValue true (Nat.toDigits 10 value.natAbs ++ rest) =
      .ok ⟨.number (.integer value), rest⟩) ∧
    (¬ value < 0 → readNumberValue false (Nat.toDigits 10 value.natAbs ++ rest) =
      .ok ⟨.number (.integer value), rest⟩) := by
  have within : value.natAbs ≤ maxInteger := by
    simp only [maxInteger, UInt64.size] at low high ⊢
    omega
  constructor
  · intro negative
    have few : 0 < value.natAbs ∧ value.natAbs ≤ UInt64.size / 2 := by omega
    have same : -(value.natAbs : Int) = value := by omega
    rw [readNumberValue, readNumber_numeral true within ends, wholeNumber,
      if_neg (by simp), if_pos few, same]
    rfl
  · intro natural
    have same : (value.natAbs : Int) = value := by omega
    rw [readNumberValue, readNumber_numeral false within ends, wholeNumber, if_pos (by simp), same]
    rfl

/-! ## Strings -/

theorem value?_digit {value : Nat} (small : value < 16) :
    Hex.value? (Hex.digit value) = some value := by
  have all : ∀ value : Fin 16, Hex.value? (Hex.digit value) = some value.val := by decide
  exact all ⟨value, small⟩

theorem readHex_control {n : Nat} (rest : List Char) (small : n < 0x20) :
    readHex ('0' :: '0' :: Hex.digit (n / 16) :: Hex.digit (n % 16) :: rest) = .ok ⟨n, rest⟩ := by
  have enough : ¬ byteLength ['0', '0', Hex.digit (n / 16), Hex.digit (n % 16)] < 4 := by
    have high := Char.utf8Size_pos (Hex.digit (n / 16))
    have low := Char.utf8Size_pos (Hex.digit (n % 16))
    have zero : Char.utf8Size '0' = 1 := rfl
    simp only [byteLength, List.map_cons, List.map_nil, List.foldr_cons, List.foldr_nil, zero]
    omega
  have zero : Hex.value? '0' = some 0 := rfl
  have whole : ((0 * 16 + 0) * 16 + n / 16) * 16 + n % 16 = n := by omega
  rw [readHex, List.take_succ_cons, List.take_succ_cons, List.take_succ_cons,
    List.take_succ_cons, List.take_zero, if_neg enough, zero,
    value?_digit (by omega : n / 16 < 16), value?_digit (by omega : n % 16 < 16)]
  simp only [whole]

/-- An escaped character is read as the character that it stands for. -/
theorem readChars_escape (c : Char) (steps : Nat) (rest : List Char) :
    readChars (steps + 1) (escape c ++ rest) = (do
      let ⟨text, rest⟩ ← readChars steps rest
      return ⟨c :: text, rest⟩) := by
  unfold escape
  split
  · next same => subst same; rfl
  split
  · next same => subst same; rfl
  split
  · next same => subst same; rfl
  split
  · next same => subst same; rfl
  split
  · next same => subst same; rfl
  split
  · next same => subst same; rfl
  split
  · next same => subst same; rfl
  split
  · next control =>
    have number := readHex_control rest control
    simp only [List.cons_append, List.nil_append, readChars, readEscape, number, bind, Except.bind,
      Char.ofNat_toNat, if_neg (by omega : ¬ (0xDC00 ≤ c.toNat ∧ c.toNat ≤ 0xDFFF)),
      if_neg (by omega : ¬ (0xD800 ≤ c.toNat ∧ c.toNat ≤ 0xDBFF)), pure, Except.pure]
    rfl
  · next quote backslash _ _ _ _ _ control =>
    rw [List.singleton_append, readChars, if_neg quote, if_neg backslash, if_neg control]

theorem readChars_escaped (text rest : List Char) {steps : Nat} (enough : text.length < steps) :
    readChars steps (text.flatMap escape ++ '"' :: rest) = .ok ⟨text, rest⟩ := by
  induction text generalizing steps with
  | nil =>
    obtain ⟨steps, rfl⟩ := Nat.exists_eq_add_of_lt enough
    rfl
  | cons c text ih =>
    obtain ⟨steps, rfl⟩ : ∃ more, steps = more + 1 := ⟨steps - 1, by omega⟩
    rw [List.flatMap_cons, List.append_assoc, readChars_escape,
      ih (Nat.lt_of_succ_lt_succ enough)]
    rfl

theorem readString_escaped (text : String) (rest : List Char) :
    readString (text.toList.flatMap escape ++ '"' :: rest) = .ok ⟨text, rest⟩ := by
  have enough : text.toList.length < (text.toList.flatMap escape ++ '"' :: rest).length + 1 := by
    have := length_le_escaped text.toList
    rw [List.length_append]
    omega
  rw [readString, readChars_escaped text.toList rest enough]
  show Except.ok (Parsed.mk (String.ofList text.toList) rest) = _
  rw [String.ofList_toList]

/-! ## Arrays and objects -/

theorem skipBlanks_cons {c : Char} {cs : List Char} (plain : isBlank c = false) :
    skipBlanks (c :: cs) = c :: cs := by
  rw [skipBlanks, List.dropWhile_cons_of_neg (by simp [plain])]

/-- A reader reads a value that it knows, whatever follows. -/
def Reads (reader : Reader Json) (json : Json) : Prop :=
  ∀ rest, Ends rest → reader (json.chars ++ rest) = .ok ⟨json.sorted, rest⟩

section Containers

variable {reader : Reader Json} {depth : Nat}

theorem readElements_written {elements : List Json} {steps : Nat} (rest : List Char)
    (some : elements ≠ []) (enough : elements.length ≤ steps)
    (readable : ∀ value ∈ elements, Readable depth value)
    (reads : ∀ value ∈ elements, Reads reader value) :
    readElements reader steps (elementsChars elements ++ ']' :: rest) =
      .ok ⟨elements.map sorted, rest⟩ := by
  induction elements generalizing steps with
  | nil => exact absurd rfl some
  | cons value elements ih =>
    obtain ⟨steps, rfl⟩ : ∃ more, steps = more + 1 := ⟨steps - 1, by
      rw [List.length_cons] at enough; omega⟩
    have first := reads value List.mem_cons_self
    cases elements with
    | nil =>
      rw [elementsChars, readElements, first _ (ends_elements rest)]
      rfl
    | cons next others =>
      have later := ih (List.cons_ne_nil next others) (Nat.le_of_succ_le_succ enough)
        (fun value member => readable value (List.mem_cons_of_mem _ member))
        (fun value member => reads value (List.mem_cons_of_mem _ member))
      obtain ⟨c, cs, front, plain, inside⟩ := exists_front_elements others
        (']' :: rest) (readable next (List.mem_cons_of_mem _ List.mem_cons_self))
      rw [front] at later
      rw [elementsChars_cons_cons, List.append_assoc, List.cons_append, front, readElements,
        first _ (ends_comma _)]
      simp only [bind, Except.bind, skipBlanks_cons (by decide : isBlank ',' = false),
        skipBlanks_cons plain]
      split
      · next nothing => cases nothing
      · next close => exact absurd (List.cons.inj close).1 inside
      · rw [later]
        rfl

theorem readArray_written {elements : List Json} (rest : List Char)
    (readable : ∀ value ∈ elements, Readable depth value)
    (reads : ∀ value ∈ elements, Reads reader value) :
    readArray reader (elementsChars elements ++ ']' :: rest) =
      .ok ⟨.array (elements.map sorted), rest⟩ := by
  cases elements with
  | nil => rfl
  | cons value elements =>
    obtain ⟨c, cs, front, plain, inside⟩ := exists_front_elements elements
      (']' :: rest) (readable value List.mem_cons_self)
    have enough : (value :: elements).length ≤ (c :: cs).length := by
      rw [← front, List.length_append]
      have := length_le_elementsChars (value :: elements) fun value member => by
        obtain ⟨c, cs, front, _⟩ := exists_front (readable value member)
        rw [front]
        exact List.cons_ne_nil c cs
      omega
    have whole := readElements_written rest (List.cons_ne_nil value elements) enough readable reads
    rw [front] at whole ⊢
    unfold readArray
    rw [skipBlanks_cons plain]
    split
    · next nothing => cases nothing
    · next close => exact absurd (List.cons.inj close).1 inside
    · rw [whole]
      rfl

theorem readMember_written {name : String} {value : Json} {rest : List Char}
    (reads : Reads reader value) (ends : Ends rest) :
    readMember reader (name.toList.flatMap escape ++ '"' :: ':' :: (value.chars ++ rest)) =
      .ok ⟨(name, value.sorted), rest⟩ := by
  rw [readMember, readString_escaped]
  show (reader (value.chars ++ rest) >>= _) = _
  rw [reads rest ends]
  rfl

/-- The members of an object, from inside the first name on. -/
theorem readMembers_written {members : List (String × Json)} {steps : Nat} {cs : List Char}
    (rest : List Char) (enough : members.length ≤ steps)
    (reads : ∀ member ∈ members, Reads reader member.2)
    (written : membersChars members ++ '\x7d' :: rest = '"' :: cs) :
    readMembers reader steps cs = .ok ⟨sortedMembers members, rest⟩ := by
  induction members generalizing steps cs with
  | nil => cases written
  | cons member members ih =>
    obtain ⟨name, value⟩ := member
    obtain ⟨steps, rfl⟩ : ∃ more, steps = more + 1 := ⟨steps - 1, by
      rw [List.length_cons] at enough; omega⟩
    have first : Reads reader value := reads (name, value) List.mem_cons_self
    cases members with
    | nil =>
      rw [membersChars, List.append_assoc, quoted_append] at written
      obtain rfl := (List.cons.inj written).2
      rw [readMembers, List.cons_append, readMember_written first (ends_members rest)]
      rfl
    | cons next others =>
      rw [membersChars_cons_cons, List.append_assoc, List.append_assoc, quoted_append] at written
      obtain rfl := (List.cons.inj written).2
      obtain ⟨tail, front⟩ := exists_front_members next others ('\x7d' :: rest)
      have later : readMembers reader steps tail = .ok ⟨sortedMembers (next :: others), rest⟩ :=
        ih (Nat.le_of_succ_le_succ enough)
          (fun member inside => reads member (List.mem_cons_of_mem _ inside)) front
      rw [List.cons_append, List.cons_append, front, readMembers,
        readMember_written first (ends_comma _)]
      show (readMembers reader steps tail >>= _) = _
      rw [later]
      rfl

theorem readObject_written {members : List (String × Json)} (rest : List Char)
    (reads : ∀ member ∈ members, Reads reader member.2) :
    readObject reader (membersChars members ++ '\x7d' :: rest) =
      .ok ⟨.ofMembers (sortedMembers members), rest⟩ := by
  cases members with
  | nil => rfl
  | cons member members =>
    obtain ⟨cs, front⟩ := exists_front_members member members ('\x7d' :: rest)
    have enough : (member :: members).length ≤ cs.length := by
      have := length_le_membersChars (member :: members)
      have := congrArg List.length front
      rw [List.length_append, List.length_cons, List.length_cons] at this
      omega
    rw [front]
    show (readMembers reader cs.length cs >>= _) = _
    rw [readMembers_written rest enough reads front]
    rfl

end Containers

/-! ## Values -/

/-- A digit leads to a number. -/
theorem readValue_digit {depth : Nat} {c : Char} {cs : List Char} (digit : c.isDigit) :
    readValue depth (c :: cs) = readNumberValue false (c :: cs) := by
  unfold readValue
  rw [skipBlanks_cons (isBlank_of_isDigit digit)]
  split
  case h_9 same =>
    obtain ⟨rfl, rfl⟩ := List.cons.inj same
    rw [if_pos digit]
  all_goals
    next same =>
      cases same
      try cases digit

theorem readValue_chars {depth : Nat} {json : Json} (readable : Readable depth json) :
    Reads (readValue depth) json := by
  induction readable with
  | null =>
    intro rest _
    unfold readValue
    rfl
  | @bool _ value =>
    intro rest _
    unfold readValue
    cases value <;> rfl
  | @integer depth value low high =>
    intro rest ends
    obtain ⟨negative, natural⟩ := readNumberValue_integer ends low high
    rw [chars, numberChars, integerChars]
    split
    · next below =>
      unfold readValue
      exact negative below
    · next above =>
      obtain ⟨c, cs, front, digit, _⟩ := Text.head_toDigits value.natAbs
      have reads := natural above
      rw [front, List.cons_append] at reads ⊢
      rw [readValue_digit digit, reads]
      rfl
  | @string _ value =>
    intro rest _
    rw [chars, quoted_append]
    unfold readValue
    show (readString (value.toList.flatMap escape ++ '"' :: rest) >>= _) = _
    rw [readString_escaped]
    rfl
  | @array depth elements readable ih =>
    intro rest _
    simp only [chars, List.cons_append, List.append_assoc, List.nil_append, sorted,
      sortedElements_eq_map]
    unfold readValue
    exact readArray_written rest readable ih
  | @object depth members _ ih =>
    intro rest _
    simp only [chars, List.cons_append, List.append_assoc, List.nil_append, sorted]
    unfold readValue
    exact readObject_written rest ih

/-! ## Whole texts -/

/-- A written value is read as itself, with the members of its objects sorted. -/
theorem parse_text {json : Json} (readable : Readable maxDepth json) :
    parse json.text = .ok json.sorted := by
  have reads := readValue_chars readable [] trivial
  rw [List.append_nil] at reads
  rw [parse, text, String.toList_ofList, reads]
  rfl

theorem sorted_eq_of_text_eq {json json' : Json} (readable : Readable maxDepth json)
    (readable' : Readable maxDepth json') (same : json.text = json'.text) :
    json.sorted = json'.sorted := by
  have read := parse_text readable
  rw [same, parse_text readable'] at read
  exact (Except.ok.inj read).symm

end SyncProbe.Json
