import SyncProbe.Proofs.Json.Writing

/-!
# Texts without controls

A text without controls stays on its line, and does nothing to a terminal. It stays so if such texts
are put together, and the numerals in it are harmless.

Results:
1. `isVisible_append`, `isVisible_join`, `isVisible_intercalate`: texts put together.
2. `isVisible_numeral`, `isVisible_hexadecimal`: numerals.
-/

namespace SyncProbe.Text

open Json (Visible visible_digit visible_of_isDigit)

/-- The text has no control before the blank. -/
def IsVisible (text : String) : Prop :=
  ∀ c ∈ text.toList, Visible c

instance (text : String) : Decidable (IsVisible text) :=
  List.decidableBAll Visible text.toList

/-! ## Characters -/

theorem visible_toLower {c : Char} (visible : Visible c) : Visible c.toLower := by
  unfold Char.toLower
  split
  · next upper =>
    have bounded : c.val.toNat ≤ 'Z'.val.toNat := UInt32.le_iff_toNat_le.mp upper.2
    have sum : (c.val + ('a'.val - 'A'.val)).toNat = c.val.toNat + 32 := by
      rw [UInt32.toNat_add]
      exact Nat.mod_eq_of_lt (Nat.lt_of_le_of_lt (Nat.add_le_add_right bounded 32) (by decide))
    show 0x20 ≤ (c.val + ('a'.val - 'A'.val)).toNat
    rw [sum]
    exact Nat.le_add_left _ _
  · exact visible

theorem visible_of_isAlphanum {c : Char} (letter : c.isAlphanum) : Visible c := by
  have above {bound : UInt32} (low : bound ≤ c.val) (printable : 0x20 ≤ bound.toNat) : Visible c :=
    Nat.le_trans printable (UInt32.le_iff_toNat_le.mp low)
  rcases Bool.or_eq_true_iff.mp letter with alphabetic | digit
  · rcases Bool.or_eq_true_iff.mp alphabetic with upper | lower
    · exact above (of_decide_eq_true upper).1 (by decide)
    · exact above (of_decide_eq_true (Bool.and_eq_true_iff.mp lower).1) (by decide)
  · exact visible_of_isDigit digit

/-! ## Texts put together -/

theorem isVisible_ofList {cs : List Char} :
    IsVisible (String.ofList cs) ↔ ∀ c ∈ cs, Visible c := by
  rw [IsVisible, String.toList_ofList]

theorem isVisible_append {text rest : String} :
    IsVisible (text ++ rest) ↔ IsVisible text ∧ IsVisible rest := by
  rw [IsVisible, String.toList_append]
  exact List.forall_mem_append

theorem isVisible_join {texts : List String} (visible : ∀ text ∈ texts, IsVisible text) :
    IsVisible (String.join texts) := by
  induction texts with
  | nil => decide
  | cons text texts ih =>
    rw [String.join_cons, isVisible_append]
    exact ⟨visible text List.mem_cons_self,
      ih fun other among => visible other (List.mem_cons_of_mem _ among)⟩

theorem isVisible_intercalate {between : String} {texts : List String}
    (separates : IsVisible between) (visible : ∀ text ∈ texts, IsVisible text) :
    IsVisible (between.intercalate texts) := by
  induction texts with
  | nil => exact nofun
  | cons text texts ih =>
    have first := visible text List.mem_cons_self
    by_cases last : texts = []
    · rw [last, String.intercalate_singleton]
      exact first
    · rw [String.intercalate_cons_of_ne_nil last, isVisible_append, isVisible_append]
      exact ⟨⟨first, separates⟩,
        ih fun other among => visible other (List.mem_cons_of_mem _ among)⟩

/-! ## Numerals -/

theorem isVisible_numeral (number : Nat) : IsVisible (toString number) := by
  intro c inside
  have inside : c ∈ number.repr.toList := inside
  rw [Nat.toList_repr] at inside
  exact visible_of_isDigit (Nat.isDigit_of_mem_toDigits (by decide) (by decide) inside)

theorem isVisible_hexadecimal (number : Nat) :
    IsVisible (String.ofList (Nat.toDigits 16 number)) := by
  rw [isVisible_ofList]
  induction number using Nat.strongRecOn with
  | ind number ih =>
    intro c inside
    by_cases small : number < 16
    · rw [Nat.toDigits_of_lt_base small, List.mem_singleton] at inside
      rw [inside]
      exact visible_digit small
    · rw [Nat.toDigits_of_base_le (by decide) (Nat.le_of_not_lt small)] at inside
      rcases List.mem_append.mp inside with front | last
      · exact ih (number / 16) (by omega) c front
      · rw [List.mem_singleton.mp last]
        exact visible_digit (Nat.mod_lt _ (by decide))

end SyncProbe.Text
