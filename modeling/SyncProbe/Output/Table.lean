/-!
# Tables

A table is drawn in plain characters: a header under a rule, a double rule, and rows with rules
between them. A column is as wide as its widest cell, and each cell has a blank on both sides.
-/

namespace SyncProbe

/-- A table. Every row has as many cells as the header. -/
structure Table where
  header : List String
  rows : List (List String)
deriving DecidableEq, Repr

namespace Table

/-- The widths of the columns. -/
def widths (table : Table) : List Nat :=
  table.rows.foldl
    (fun widths row => List.zipWith (fun width cell => max width cell.length) widths row)
    (table.header.map String.length)

/-- A character again and again. -/
def repeated (c : Char) (count : Nat) : String :=
  String.ofList (List.replicate count c)

/-- A cell, filled up with blanks. -/
def cell (width : Nat) (content : String) : String :=
  " " ++ content ++ repeated ' ' (width - content.length) ++ " "

/-- A row between bars. -/
def row (widths : List Nat) (cells : List String) : String :=
  "|" ++ "|".intercalate (List.zipWith cell widths cells) ++ "|"

/-- A rule: what it is drawn with, where columns meet, and at both ends. -/
def rule (stroke : Char) (joint : String) (edge : String) (widths : List Nat) : String :=
  edge ++ joint.intercalate (widths.map fun width => repeated stroke (width + 2)) ++ edge

def lines (table : Table) : List String :=
  let widths := table.widths
  let border := rule '-' "+" "+" widths
  let rows := (table.rows.map (row widths)).intersperse (rule '-' "+" "|" widths)
  [border, row widths table.header, rule '=' "=" "+" widths] ++ rows ++ [border]

def text (table : Table) : String :=
  "\n".intercalate table.lines

end Table

end SyncProbe
