import MonkeyLang.Console.Cells

/-!
Text on a console of limited width. A line is broken between words, each of which
keeps the blanks behind it; blanks may hang over the edge and are cut there. A
word that is wider than the console is broken where the console ends.
-/

namespace MonkeyLang.Console

/-- The number of columns. -/
def width : Nat := 80

def spaces (count : Nat) : Line :=
  List.replicate count ' '

/-- Characters that move the cursor instead of being shown. -/
def isControl (char : Char) : Bool :=
  ['\x07', '\x08', '\x0b', '\x0c', '\x0d'].contains char

/-- The lines of a text without the characters that move the cursor. -/
def linesOf (text : List Char) : List Line :=
  (text.filter fun char => !isControl char).splitOn '\n'

/-- The distance between the columns at which a tabulator can end. -/
def tabDistance : Nat := 8

/-- Replace tabulators by blanks, from a column on. -/
def expandTabs (column : Nat) : Line → Line
  | [] => []
  | char :: rest =>
      if char = '\t' then
        let gap := tabDistance - column % tabDistance
        spaces gap ++ expandTabs (column + gap) rest
      else char :: expandTabs (column + cells char) rest

/-- The words of a line with the blanks behind them; the first one also has those before
it. A line of blanks has no words. -/
def wordsWithin : Nat → Line → List Line
  | 0, _ => []
  | bound + 1, line =>
      let before := line.takeWhile Text.isBlank
      let rest := line.dropWhile Text.isBlank
      if rest.isEmpty then []
      else
        let body := rest.takeWhile fun char => !Text.isBlank char
        let rest := rest.dropWhile fun char => !Text.isBlank char
        let after := rest.takeWhile Text.isBlank
        (before ++ body ++ after) :: wordsWithin bound (rest.dropWhile Text.isBlank)

def words (line : Line) : List Line :=
  wordsWithin line.length line

/-- A line without the blanks at its end. -/
def trimEnd (line : Line) : Line :=
  (line.reverse.dropWhile Text.isBlank).reverse

/-- Put a character in front of the first of some pieces. -/
def attach (char : Char) : List Line → List Line
  | [] => [[char]]
  | piece :: rest => (char :: piece) :: rest

/-- The pieces into which a word is broken; `room` columns are left in the first. -/
def chop (columns room : Nat) : Line → List Line
  | [] => [[]]
  | char :: rest =>
      if cells char ≤ room then attach char (chop columns (room - cells char) rest)
      else [] :: attach char (chop columns (columns - cells char) rest)

/-- Put a word behind the lines so far, of which the last stands first. -/
def placeWord (columns : Nat) (lines : List Line) (word : Line) : List Line :=
  let current := lines.headD []
  let needed := lineCells (trimEnd word)
  if lineCells current + needed ≤ columns then (current ++ word) :: lines.tail
  else if needed > columns then (chop columns columns word).reverse ++ lines
  else word :: lines

/-- Cut blanks at the end of a line that has more characters than there are columns, and
then whatever goes beyond the last column. -/
def cutEnd (columns : Nat) (line : Line) : Line :=
  let visible := (trimEnd line).length
  clip columns (line.take (max visible columns))

/-- One line of text as lines that fit. -/
def wrapLine (columns : Nat) (line : Line) : List Line :=
  let line := expandTabs 0 line
  match words line with
  | [] => [cutEnd columns line]
  | found => ((found.foldl (placeWord columns) []).reverse).map (cutEnd columns)

def wrap (columns : Nat) (text : List Char) : List Line :=
  (linesOf text).flatMap (wrapLine columns)

/-- Lines as printed, each with a line end. -/
def printed (lines : List Line) : String :=
  String.join (lines.map fun line => String.ofList (line ++ ['\n']))

end MonkeyLang.Console
