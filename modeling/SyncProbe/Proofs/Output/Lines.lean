import SyncProbe.Program

/-!
# Lines of what is printed

Each entry that is printed ends its last line. So the lines of what is printed are the lines of the
entries, and each line break inside an entry begins one more.

Results:
1. `splitOn_append`, `length_splitOn`: a separator ends a part, and begins another one.
2. `lines_of_isLine`, `lines_front`, `length_lines`: the lines of a text.
3. `lines_join`: the lines of texts that each end their last line.
4. `Execution.lines_print`: entries without line breaks are the lines.
-/

namespace SyncProbe

/-! ## Parts of a list -/

section Parts

variable {α : Type} {separates : α → Bool} {c : α} {cs : List α}

theorem splitOn_cons_ends (ends : separates c = true) (cs : List α) :
    splitOn separates (c :: cs) = [] :: splitOn separates cs := by
  rw [splitOn, ends]

theorem splitOn_cons_whole {part : List α} {parts : List (List α)} (whole : separates c = false)
    (splits : splitOn separates cs = part :: parts) :
    splitOn separates (c :: cs) = (c :: part) :: parts := by
  rw [splitOn, whole, splits]

/-- There is always a first part. -/
theorem exists_splitOn (separates : α → Bool) (cs : List α) :
    ∃ part parts, splitOn separates cs = part :: parts := by
  induction cs with
  | nil => exact ⟨[], [], rfl⟩
  | cons c cs ih =>
    obtain ⟨part, parts, splits⟩ := ih
    cases kind : separates c with
    | true => exact ⟨_, _, splitOn_cons_ends kind cs⟩
    | false => exact ⟨_, _, splitOn_cons_whole kind splits⟩

theorem splitOn_append (ends : separates c = true) (front rest : List α) :
    splitOn separates (front ++ c :: rest) = splitOn separates front ++ splitOn separates rest := by
  induction front with
  | nil => exact splitOn_cons_ends ends rest
  | cons d front ih =>
    rw [List.cons_append]
    cases kind : separates d with
    | true => rw [splitOn_cons_ends kind, splitOn_cons_ends kind, ih, List.cons_append]
    | false =>
      obtain ⟨part, parts, splits⟩ := exists_splitOn separates front
      rw [splitOn_cons_whole kind splits]
      rw [splits] at ih
      exact splitOn_cons_whole kind ih

/-- What has no separator belongs to the first part behind it. -/
theorem splitOn_front {front rest part : List α} {parts : List (List α)}
    (whole : ∀ d ∈ front, separates d = false) (splits : splitOn separates rest = part :: parts) :
    splitOn separates (front ++ rest) = (front ++ part) :: parts := by
  induction front with
  | nil => exact splits
  | cons d front ih =>
    exact splitOn_cons_whole (whole d List.mem_cons_self)
      (ih fun d inside => whole d (List.mem_cons_of_mem _ inside))

theorem length_splitOn (separates : α → Bool) (cs : List α) :
    (splitOn separates cs).length = cs.countP separates + 1 := by
  induction cs with
  | nil => rfl
  | cons c cs ih =>
    cases kind : separates c with
    | true => rw [splitOn_cons_ends kind, List.length_cons, ih, List.countP_cons_of_pos kind]
    | false =>
      obtain ⟨part, parts, splits⟩ := exists_splitOn separates cs
      rw [splitOn_cons_whole kind splits, List.countP_cons_of_neg (by rw [kind]; decide), ← ih,
        splits]
      rfl

end Parts

/-! ## Lines of a text -/

namespace Text

/-- The text has no line break. -/
def IsLine (text : String) : Prop :=
  ∀ c ∈ text.toList, c ≠ '\n'

instance (text : String) : Decidable (IsLine text) :=
  List.decidableBAll (· ≠ '\n') text.toList

/-- How many line breaks the text has. -/
def breaks (text : String) : Nat :=
  text.toList.countP (· = '\n')

theorem breaks_eq_zero_iff {text : String} : breaks text = 0 ↔ IsLine text := by
  simp only [breaks, IsLine, List.countP_eq_zero, decide_eq_true_eq]

theorem breaks_append (text rest : String) : breaks (text ++ rest) = breaks text + breaks rest := by
  rw [breaks, String.toList_append, List.countP_append]
  rfl

theorem length_lines (text : String) : (lines text).length = breaks text + 1 := by
  rw [lines, List.length_map, length_splitOn]
  rfl

/-- What has no line break belongs to the first line behind it. -/
theorem lines_front {front : String} (whole : IsLine front) (rest : String) :
    ∃ line others, lines rest = line :: others ∧
      lines (front ++ rest) = (front ++ line) :: others := by
  obtain ⟨part, parts, splits⟩ := exists_splitOn (· = '\n') rest.toList
  refine ⟨String.ofList part, parts.map String.ofList, by rw [lines, splits, List.map_cons], ?_⟩
  have joined := splitOn_front (fun d inside => decide_eq_false (whole d inside)) splits
  rw [lines, String.toList_append, joined, List.map_cons, String.ofList_append,
    String.ofList_toList]

theorem lines_of_isLine {text : String} (whole : IsLine text) : lines text = [text] := by
  obtain ⟨line, others, splits, joined⟩ := lines_front whole ""
  cases splits
  rwa [String.append_empty] at joined

theorem lines_append (text rest : String) :
    lines (text ++ "\n" ++ rest) = lines text ++ lines rest := by
  have chars : (text ++ "\n" ++ rest).toList = text.toList ++ '\n' :: rest.toList := by
    rw [String.append_assoc, String.toList_append, String.toList_append]
    rfl
  have parts : splitOn (· = '\n') (text.toList ++ '\n' :: rest.toList) =
      splitOn (· = '\n') text.toList ++ splitOn (· = '\n') rest.toList :=
    splitOn_append rfl text.toList rest.toList
  rw [lines, chars, parts, List.map_append]
  rfl

/-- The lines of texts that each end their last line. -/
theorem lines_join (texts : List String) :
    lines (String.join (texts.map (· ++ "\n"))) = texts.flatMap lines ++ [""] := by
  induction texts with
  | nil => rfl
  | cons text rest ih =>
    rw [List.map_cons, String.join_cons, lines_append, ih, List.flatMap_cons, List.append_assoc]

end Text

namespace Execution

theorem lines_print (format : Format) (entries : List Entry) :
    Text.lines (print format entries) =
      (entries.flatMap fun entry => Text.lines (entry.text format)) ++ [""] := by
  have printed : print format entries =
      String.join ((entries.map (Entry.text format)).map (· ++ "\n")) := by
    rw [List.map_map]
    rfl
  rw [printed, Text.lines_join, List.flatMap_map]

/-- Entries without line breaks are the lines that they take. -/
theorem flatMap_lines {format : Format} {entries : List Entry}
    (whole : ∀ entry ∈ entries, Text.IsLine (entry.text format)) :
    (entries.flatMap fun entry => Text.lines (entry.text format)) =
      entries.map (Entry.text format) := by
  induction entries with
  | nil => rfl
  | cons entry rest ih =>
    rw [List.flatMap_cons, Text.lines_of_isLine (whole entry List.mem_cons_self),
      ih fun other among => whole other (List.mem_cons_of_mem _ among)]
    rfl

end Execution

end SyncProbe
