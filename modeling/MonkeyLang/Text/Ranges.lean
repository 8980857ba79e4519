/-!
Sets of characters given as closed ranges of code points, and the blank characters
that separate words and are trimmed from a setting.
-/

namespace MonkeyLang.Text

/-- Ranges in ascending order, apart from each other. -/
abbrev Ranges := List (Nat × Nat)

/-- Whether one of the ranges holds a character. The search ends at the first range that
lies beyond it. -/
def Ranges.contains (char : Char) : Ranges → Bool
  | [] => false
  | (first, last) :: rest =>
      first ≤ char.toNat && (char.toNat ≤ last || Ranges.contains char rest)

/-- Unicode white space, and the four information separators. -/
def blankRanges : Ranges :=
  [(0x09, 0x0D), (0x1C, 0x20), (0x85, 0x85), (0xA0, 0xA0), (0x1680, 0x1680), (0x2000, 0x200A),
   (0x2028, 0x2029), (0x202F, 0x202F), (0x205F, 0x205F), (0x3000, 0x3000)]

def isBlank (char : Char) : Bool :=
  blankRanges.contains char

/-- Remove blank characters at both ends. -/
def strip (text : List Char) : List Char :=
  ((text.dropWhile isBlank).reverse.dropWhile isBlank).reverse

/-- The pieces of a text between blank characters, without empty ones. -/
def words (text : List Char) : List (List Char) :=
  (text.splitOnP isBlank).filter fun word => !word.isEmpty

end MonkeyLang.Text
