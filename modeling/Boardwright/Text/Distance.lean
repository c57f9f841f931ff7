/-!
# Distance between words

How many letters have to be inserted, removed or exchanged to turn one word into another.
-/

namespace Boardwright.Text

/-- The distances of `w ++ [x]` from all beginnings of a word, `corner` being the one from the
empty beginning, given the distances of `w`. -/
def distanceRow {α : Type} [DecidableEq α] (x : α) (corner : Nat) : List α → List Nat → List Nat
  | y :: ys, diagonal :: above :: rest =>
    let here := min (min (above + 1) (corner + 1)) (diagonal + if x = y then 0 else 1)
    corner :: distanceRow x here ys (above :: rest)
  | _, _ => [corner]

/-- The fewest changes of single elements that lead from one list to the other. -/
def distance {α : Type} [DecidableEq α] (xs ys : List α) : Nat :=
  let start := List.range (ys.length + 1)
  ((xs.foldl (fun row x => distanceRow x ((row.head?.getD 0) + 1) ys row) start).getLast?).getD 0

end Boardwright.Text
