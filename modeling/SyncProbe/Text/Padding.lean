/-!
# Text in a field of fixed width

A field may cut a text to a greatest number of characters, and then fills it up to a least number on
the side that the alignment leaves free.
-/

namespace SyncProbe

/-- Where a text stands in a wider field. -/
inductive Alignment where
  | left
  | center
  | right
deriving DecidableEq, Repr

/-- A field that a text is written into. -/
structure Field where
  /-- The least number of characters. -/
  width : Nat := 0
  /-- The greatest number of characters of the text itself. -/
  limit : Option Nat := none
  alignment : Alignment := .left
  fill : Char := ' '
deriving DecidableEq, Repr

namespace Field

/-- The text, cut to the field's limit. -/
def cut (field : Field) (text : String) : List Char :=
  match field.limit with
  | some limit => text.toList.take limit
  | none => text.toList

/-- The characters to fill in before the text. A centered text with no exact middle stands left. -/
def before (field : Field) (missing : Nat) : Nat :=
  match field.alignment with
  | .left => 0
  | .center => missing / 2
  | .right => missing

def write (field : Field) (text : String) : String :=
  let shown := field.cut text
  let missing := field.width - shown.length
  let before := field.before missing
  String.ofList (List.replicate before field.fill ++ shown
    ++ List.replicate (missing - before) field.fill)

end Field

end SyncProbe
