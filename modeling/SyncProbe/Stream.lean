import SyncProbe.Text.Utf8

/-!
# One after another

A byte string may hold several integers or frames, one behind the other. `Stream.read` reads them
with a reader for one of them, which gives back what it leaves, until nothing is left or the reader
fails.
-/

namespace SyncProbe

/-- What was read from a byte string, in order. -/
structure Stream (α ε : Type) where
  /-- Each item, with the bytes behind it. -/
  items : List (α × Bytes)
  /-- Why the bytes behind the last item are no further one, if there are any. -/
  fault : Option ε
deriving DecidableEq, Repr

namespace Stream

variable {α ε : Type}

/-- Reads at most `steps` items. -/
def readWithin (reader : Bytes → Except ε (α × Bytes)) : Nat → Bytes → Stream α ε
  | 0, _ => ⟨[], none⟩
  | _ + 1, [] => ⟨[], none⟩
  | steps + 1, data =>
    match reader data with
    | .error fault => ⟨[], some fault⟩
    | .ok (item, rest) =>
      let stream := readWithin reader steps rest
      ⟨(item, rest) :: stream.items, stream.fault⟩

/-- Reads all items. Every item takes at least one byte. -/
def read (reader : Bytes → Except ε (α × Bytes)) (data : Bytes) : Stream α ε :=
  readWithin reader data.length data

end Stream

end SyncProbe
