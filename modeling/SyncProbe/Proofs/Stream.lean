import SyncProbe.Stream

/-!
# Items that stand one after another

`Stream.read` bounds its steps by the number of bytes. For a reader that takes at least one byte off
for each item the bound never bites, and `read` goes on until nothing is left or the reader fails.

Results:
1. `read_of_ok`, `read_of_error`: one step of `read`.
2. `take_flatMap`: items are taken back in order, and what comes behind them is left.
3. `read_flatMap`: after them, `read` goes on as if it started there.
4. `exhausts_of_read`, `flatten_consumed`: without a fault, all bytes are taken by the items.
-/

namespace SyncProbe.Stream

variable {α β ε : Type} {reader : Bytes → Except ε (α × Bytes)}

/-- The reader takes at least one byte off the front. -/
def Shortens (reader : Bytes → Except ε (α × Bytes)) : Prop :=
  ∀ data item rest, reader data = .ok (item, rest) → rest.length < data.length

/-- Reads so many items, each from where the one before it ended, and gives what they leave. -/
def take (reader : Bytes → Except ε (α × Bytes)) : Nat → Bytes → Except ε (List α × Bytes)
  | 0, data => .ok ([], data)
  | count + 1, data => do
    let (item, rest) ← reader data
    let (items, rest) ← take reader count rest
    return (item :: items, rest)

/-- The items alone. -/
def values (stream : Stream α ε) : List α :=
  stream.items.map Prod.fst

/-! ## One step -/

theorem readWithin_nil (steps : Nat) : readWithin reader steps [] = ⟨[], none⟩ := by
  cases steps <;> rfl

theorem readWithin_succ {steps : Nat} {data : Bytes} (some : data ≠ []) :
    readWithin reader (steps + 1) data =
      match reader data with
      | .error fault => ⟨[], Option.some fault⟩
      | .ok (item, rest) =>
        ⟨(item, rest) :: (readWithin reader steps rest).items,
          (readWithin reader steps rest).fault⟩ := by
  cases data with
  | nil => exact absurd rfl some
  | cons byte data => rfl

/-- Any two numbers of steps that are no less than the bytes do the same. -/
theorem readWithin_eq (shortens : Shortens reader) {steps steps' : Nat} {data : Bytes}
    (enough : data.length ≤ steps) (enough' : data.length ≤ steps') :
    readWithin reader steps data = readWithin reader steps' data := by
  induction steps generalizing steps' data with
  | zero =>
    have none : data = [] := List.length_eq_zero_iff.mp (Nat.le_zero.mp enough)
    rw [none, readWithin_nil, readWithin_nil]
  | succ steps ih =>
    cases data with
    | nil => rw [readWithin_nil, readWithin_nil]
    | cons byte data =>
      cases steps' with
      | zero => exact absurd enough' (Nat.not_succ_le_zero _)
      | succ steps' =>
        rw [readWithin_succ (List.cons_ne_nil _ _), readWithin_succ (List.cons_ne_nil _ _)]
        cases found : reader (byte :: data) with
        | error fault => rfl
        | ok pair =>
          obtain ⟨item, rest⟩ := pair
          -- The item took a byte off, so that both bounds still cover the rest.
          have shorter : rest.length ≤ data.length := Nat.le_of_lt_succ (shortens _ _ _ found)
          have same : readWithin reader steps rest = readWithin reader steps' rest :=
            ih (Nat.le_trans shorter (Nat.le_of_succ_le_succ enough))
              (Nat.le_trans shorter (Nat.le_of_succ_le_succ enough'))
          simp only [same]

theorem read_nil : read reader [] = ⟨[], none⟩ :=
  readWithin_nil 0

theorem read_of_ok (shortens : Shortens reader) {data rest : Bytes} {item : α}
    (found : reader data = .ok (item, rest)) :
    read reader data = ⟨(item, rest) :: (read reader rest).items, (read reader rest).fault⟩ := by
  have shorter := shortens _ _ _ found
  cases data with
  | nil => exact absurd shorter (Nat.not_lt_zero _)
  | cons byte data =>
    have same : readWithin reader data.length rest = read reader rest :=
      readWithin_eq shortens (Nat.le_of_lt_succ shorter) (Nat.le_refl _)
    rw [read, List.length_cons, readWithin_succ (List.cons_ne_nil _ _), found]
    simp only [same]

theorem read_of_error {data : Bytes} {fault : ε} (some : data ≠ [])
    (refused : reader data = .error fault) : read reader data = ⟨[], Option.some fault⟩ := by
  cases data with
  | nil => exact absurd rfl some
  | cons byte data =>
    rw [read, List.length_cons, readWithin_succ (List.cons_ne_nil _ _), refused]

/-! ## Many items -/

variable {emit : β → Bytes} {item : β → α} {sources : List β}

/-- What is written one after another is taken back in order, and what comes behind it is left. -/
theorem take_flatMap
    (back : ∀ source ∈ sources, ∀ rest, reader (emit source ++ rest) = .ok (item source, rest))
    (tail : Bytes) :
    take reader sources.length (sources.flatMap emit ++ tail) = .ok (sources.map item, tail) := by
  induction sources with
  | nil => rfl
  | cons source sources ih =>
    have first := back source (by simp) (sources.flatMap emit ++ tail)
    have others := ih fun other member => back other (by simp [member])
    rw [List.flatMap_cons, List.append_assoc, List.length_cons, take, first]
    show (take reader sources.length _ >>= _) = _
    rw [others]
    rfl

/-- After what is written one after another, `read` goes on as if it started there. -/
theorem read_flatMap (shortens : Shortens reader)
    (back : ∀ source ∈ sources, ∀ rest, reader (emit source ++ rest) = .ok (item source, rest))
    (tail : Bytes) :
    (read reader (sources.flatMap emit ++ tail)).values =
        sources.map item ++ (read reader tail).values ∧
      (read reader (sources.flatMap emit ++ tail)).fault = (read reader tail).fault := by
  induction sources with
  | nil => exact ⟨rfl, rfl⟩
  | cons source sources ih =>
    have first := back source (by simp) (sources.flatMap emit ++ tail)
    obtain ⟨values, fault⟩ := ih fun other member => back other (by simp [member])
    rw [List.flatMap_cons, List.append_assoc, read_of_ok shortens first]
    exact ⟨congrArg (item source :: ·) values, fault⟩

/-! ## Reading to the end -/

/-- The bytes that each item takes off the front. -/
def consumed : Bytes → List (α × Bytes) → List Bytes
  | _, [] => []
  | data, (_, rest) :: items => data.take (data.length - rest.length) :: consumed rest items

/-- Each item is read from where the one before it ended, and the last one leaves nothing. -/
inductive Exhausts (reader : Bytes → Except ε (α × Bytes)) : Bytes → List (α × Bytes) → Prop
  | done : Exhausts reader [] []
  | next {data rest : Bytes} {item : α} {items : List (α × Bytes)} :
      reader data = .ok (item, rest) → Exhausts reader rest items →
      Exhausts reader data ((item, rest) :: items)

theorem exhausts_of_readWithin (shortens : Shortens reader) {steps : Nat} {data : Bytes}
    (enough : data.length ≤ steps) (sound : (readWithin reader steps data).fault = none) :
    Exhausts reader data (readWithin reader steps data).items := by
  induction steps generalizing data with
  | zero =>
    obtain rfl : data = [] := List.length_eq_zero_iff.mp (Nat.le_zero.mp enough)
    exact .done
  | succ steps ih =>
    cases data with
    | nil => exact .done
    | cons byte data =>
      rw [readWithin_succ (List.cons_ne_nil _ _)] at sound ⊢
      cases found : reader (byte :: data) with
      | error fault =>
        rw [found] at sound
        cases sound
      | ok pair =>
        rw [found] at sound
        have shorter := shortens _ _ _ found
        rw [List.length_cons] at shorter enough
        exact .next found (ih (by omega) sound)

/-- A reading without a fault goes on to the end. -/
theorem exhausts_of_read (shortens : Shortens reader) {data : Bytes}
    (sound : (read reader data).fault = none) :
    Exhausts reader data (read reader data).items :=
  exhausts_of_readWithin shortens (Nat.le_refl _) sound

/-- What the items take are all bytes, in order. -/
theorem flatten_consumed
    (leaves : ∀ data item rest, reader data = .ok (item, rest) →
      data.take (data.length - rest.length) ++ rest = data)
    {data : Bytes} {items : List (α × Bytes)} (exhausts : Exhausts reader data items) :
    (consumed data items).flatten = data := by
  induction exhausts with
  | done => rfl
  | next found _ ih => rw [consumed, List.flatten_cons, ih, leaves _ _ _ found]

end SyncProbe.Stream
