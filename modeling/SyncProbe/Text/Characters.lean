/-!
# Classes of characters

A class of characters beyond ASCII is a list of spans of code points, in order and apart.
-/

namespace SyncProbe.Text

/-- Code points from `first` to `last`. -/
structure Span where
  first : Nat
  last : Nat
deriving DecidableEq, Repr

def within (spans : List Span) (c : Char) : Bool :=
  spans.any fun span => span.first ≤ c.toNat && c.toNat ≤ span.last

/-- The code points of blanks: spaces, tabs, and what breaks a line. -/
def blanks : List Span :=
  [⟨0x09, 0x0D⟩, ⟨0x20, 0x20⟩, ⟨0x85, 0x85⟩, ⟨0xA0, 0xA0⟩, ⟨0x1680, 0x1680⟩, ⟨0x2000, 0x200A⟩,
    ⟨0x2028, 0x2029⟩, ⟨0x202F, 0x202F⟩, ⟨0x205F, 0x205F⟩, ⟨0x3000, 0x3000⟩]

def isBlank (c : Char) : Bool :=
  within blanks c

end SyncProbe.Text
