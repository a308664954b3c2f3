/-!
# Parts of a text

`splitOn` cuts a list at the elements that separate its parts, and keeps empty parts. `Text.lines`
cuts a text at its line breaks.
-/

namespace SyncProbe

/-- The parts of a list between the elements that separate them. There is always one part. -/
def splitOn (separates : α → Bool) : List α → List (List α)
  | [] => [[]]
  | c :: rest =>
    match separates c, splitOn separates rest with
    | true, parts => [] :: parts
    | false, part :: parts => (c :: part) :: parts
    | false, [] => [[c]]

namespace Text

/-- The lines of a text. What follows the last line break is a line too, even if it is empty. -/
def lines (text : String) : List String :=
  (splitOn (· = '\n') text.toList).map String.ofList

end Text

end SyncProbe
