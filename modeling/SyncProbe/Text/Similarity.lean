import SyncProbe.Number.Binary64

/-!
# How much two texts are alike

`Text.similarity` is the Jaro measure, from 0 for texts without a common character to 1 for equal
texts. Characters match if they are equal and stand at nearly the same place; what counts is the
share of matching characters in both texts, and how many of them come in another order.

`Text.mostSimilar?` picks what a misspelt name may have meant.
-/

namespace SyncProbe.Text

/-! ## Matching characters -/

/-- How far apart characters may stand that match. -/
def matchRange (text other : List Char) : Nat :=
  max text.length other.length / 2 - 1

/-- The characters of a text that match, each with the place of its partner in the other text. -/
def matching (range : Nat) (other : List (Char × Nat)) :
    List Nat → List (Char × Nat) → List (Char × Nat)
  | _, [] => []
  | taken, (c, i) :: rest =>
    let fits := fun (d, j) => d = c && i ≤ j + range && j ≤ i + range && ! taken.contains j
    match other.find? fits with
    | some (_, j) => (c, j) :: matching range other (j :: taken) rest
    | none => matching range other taken rest

/-- How many matching characters come in another order, in pairs. -/
def transpositions (other : List (Char × Nat)) (found : List (Char × Nat)) : Nat :=
  let places := found.map (·.2)
  let partners := (other.filter fun (_, j) => places.contains j).map (·.1)
  ((found.map (·.1)).zip partners).countP (fun (c, d) => c ≠ d) / 2

/-! ## The measure -/

/-- The mean of the three shares, computed in doubles. -/
def meanShare? (text other found swapped : Nat) : Option Binary64 := do
  let ofText ← Binary64.ofRatio? false found text
  let ofOther ← Binary64.ofRatio? false found other
  let inOrder ← Binary64.ofRatio? false (found - swapped) found
  let sum ← (← ofText.add? ofOther).add? inOrder
  sum.div? (← Binary64.ofNat? 3)

/-- How much two texts are alike. -/
def similarity (text other : List Char) : Binary64 :=
  let places := other.zipIdx
  let found := matching (matchRange text other) places [] text.zipIdx
  if found.isEmpty then Binary64.zero false
  else
    (meanShare? text.length other.length found.length (transpositions places found)).getD
      (Binary64.zero false)

/-- From where on a text may be a misspelling of another. -/
def threshold : Binary64 :=
  (Binary64.ofRatio? false 7 10).getD (Binary64.zero false)

/-- The candidate that is most like a text, the last of several, if one is alike enough. -/
def mostSimilar? (text : String) (name : α → String) (candidates : List α) : Option α :=
  let scored := candidates.map fun candidate =>
    (candidate, similarity text.toList (name candidate).toList)
  let alike := scored.filter fun (_, score) => threshold.below score
  let best := alike.foldl
    (fun best next =>
      match best with
      | some held => if next.2.below held.2 then some held else some next
      | none => some next)
    none
  best.map (·.1)

end SyncProbe.Text
