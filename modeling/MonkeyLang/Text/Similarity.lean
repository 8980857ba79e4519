/-!
How alike two short texts are. The longest piece that both contain is matched, then
the parts before it and the parts behind it are treated in the same way; the ratio
compares twice the number of matched characters with the sum of the lengths.
-/

namespace MonkeyLang.Text

/-- The number of characters with which two texts begin alike. -/
def commonStart : List Char → List Char → Nat
  | a :: left, b :: right => if a = b then commonStart left right + 1 else 0
  | _, _ => 0

/-- Where the longest common piece starts in either text, and its length. Of several the
one that comes first in the left text, then in the right text, is taken. -/
def longestMatch (left right : List Char) : Nat × Nat × Nat :=
  let places := (List.range left.length).flatMap fun i =>
    (List.range right.length).map fun j => (i, j)
  places.foldl
    (fun (best : Nat × Nat × Nat) (place : Nat × Nat) =>
      let size := commonStart (left.drop place.1) (right.drop place.2)
      if size > best.2.2 then (place.1, place.2, size) else best)
    (0, 0, 0)

/-- The number of characters matched, piece by piece. -/
def matchedWithin : Nat → List Char → List Char → Nat
  | 0, _, _ => 0
  | bound + 1, left, right =>
      let (i, j, size) := longestMatch left right
      if size = 0 then 0
      else
        matchedWithin bound (left.take i) (right.take j) + size +
          matchedWithin bound (left.drop (i + size)) (right.drop (j + size))

/-- Matched characters in six tenths of the sum of the lengths make two texts similar. -/
def similar (left right : List Char) : Bool :=
  20 * matchedWithin left.length left right ≥ 6 * (left.length + right.length)

end MonkeyLang.Text
