import MonkeyLang.Console.Markup
import MonkeyLang.Console.Wrap

/-!
Frames on the console: a panel with a title around a text, and a table with a
title above it.
-/

namespace MonkeyLang.Console

def padRight (columns : Nat) (line : Line) : Line :=
  line ++ spaces (columns - lineCells line)

def padLeft (columns : Nat) (line : Line) : Line :=
  spaces (columns - lineCells line) ++ line

/-- A line in the middle of a width; what is left over goes to the right. -/
def centre (fill : Char) (columns : Nat) (line : Line) : Line :=
  let room := columns - lineCells line
  List.replicate (room / 2) fill ++ line ++ List.replicate (room - room / 2) fill

def widest (lines : List Line) : Nat :=
  lines.foldl (fun most line => max most (lineCells line)) 0

/-- Characters at which a text counts as broken when its width is measured. Most of them do
not begin a line when it is printed. -/
def breaksMeasure (char : Char) : Bool :=
  ['\n', '\x1c', '\x1d', '\x1e', '\u0085', '\u2028', '\u2029'].contains char

/-- The width that a text asks for. -/
def measure (text : List Char) : Nat :=
  widest ((text.filter fun char => !isControl char).splitOnP breaksMeasure)

/-- A panel around a text, as narrow as its title and the text allow. -/
def panel (title : String) (content : List Char) : List Line :=
  let heading := ' ' :: title.toList ++ [' ']
  let inner := min (width - 4) (max (lineCells heading) (measure content))
  let rule := List.replicate (inner + 2) '─'
  ('╭' :: '─' :: centre '─' inner heading ++ ['─', '╮']) ::
    (wrap inner content).map (fun line => '│' :: ' ' :: padRight inner line ++ [' ', '│']) ++
    ['╰' :: rule ++ ['╯']]

structure Column where
  header : String
  /-- Whether cells are aligned to the right. -/
  flushRight : Bool := false

structure Table where
  title : String
  columns : List Column
  rows : List (List String)

namespace Table

/-- The width of each column without the blanks beside it. -/
def widths (table : Table) : List Nat :=
  table.rows.foldl
    (fun widths row => List.zipWith (fun width cell => max width cell.length) widths row)
    (table.columns.map fun column => column.header.length)

/-- Cells between bars, with a blank on either side. -/
def line (bar : Char) (cells : List Line) : Line :=
  bar :: cells.flatMap fun cell => ' ' :: cell ++ [' ', bar]

/-- A rule between rows, with corners at its ends and crossings at the bars. -/
def rule (left fill crossing right : Char) (widths : List Nat) : Line :=
  let segments := widths.map fun width => List.replicate (width + 2) fill
  left :: [crossing].intercalate segments ++ [right]

def cells (table : Table) (row : List String) : List Line :=
  List.zipWith
    (fun (column : Column × Nat) (cell : String) =>
      if column.1.flushRight then padLeft column.2 cell.toList
      else padRight column.2 cell.toList)
    (table.columns.zip table.widths) row

def render (table : Table) : List Line :=
  let widths := table.widths
  let top := rule '┏' '━' '┳' '┓' widths
  [centre ' ' top.length table.title.toList, top,
    line '┃' (table.cells (table.columns.map Column.header)), rule '┡' '━' '╇' '┩' widths] ++
    table.rows.map (fun row => line '│' (table.cells row)) ++ [rule '└' '─' '┴' '┘' widths]

end Table

end MonkeyLang.Console
