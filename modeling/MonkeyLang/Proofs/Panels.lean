import MonkeyLang.Proofs.Refusals
import MonkeyLang.Proofs.Tags
import Mathlib.Data.List.DropRight

/-!
The text of a tree in a panel. A line that fits is neither broken nor cut, so a panel has one row,
with the text that the console shows of the line. Since the text of a tree is read as markup, the
row holds the text itself only when there is no markup in it.
-/

namespace MonkeyLang.Console

/-- The characters from the blank to the tilde. -/
def isPrintable (char : Char) : Bool :=
  ' ' ≤ char && char ≤ '~'

section Characters
variable {char : Char} {line : Line}

/-- What holds of every code holds of every printable character. -/
theorem of_printable (holds : Char → Prop)
    (every : ∀ code < 0x7F, 0x20 ≤ code → holds (Char.ofNat code))
    (printable : isPrintable char = true) : holds char := by
  simp only [isPrintable, Bool.and_eq_true, decide_eq_true_eq] at printable
  obtain ⟨low, high⟩ := printable
  have within : char.toNat < 0x7F := Nat.lt_succ_of_le high
  simpa using every char.toNat within low

theorem cells_printable (printable : isPrintable char = true) : cells char = 1 :=
  of_printable (cells · = 1) (by decide +kernel) printable

theorem isShown_printable (printable : isPrintable char = true) : isShown char = true :=
  of_printable (isShown · = true) (by decide +kernel) printable

theorem breaksMeasure_printable (printable : isPrintable char = true) :
    breaksMeasure char = false :=
  of_printable (breaksMeasure · = false) (by decide +kernel) printable

theorem lineCells_append (line other : Line) :
    lineCells (line ++ other) = lineCells line + lineCells other := by
  induction line with
  | nil => simp [lineCells]
  | cons char rest ih =>
      simp only [lineCells, List.cons_append, List.foldr_cons] at ih ⊢
      omega

theorem lineCells_printable (printable : ∀ char ∈ line, isPrintable char = true) :
    lineCells line = line.length := by
  induction line with
  | nil => rfl
  | cons char rest ih =>
      obtain ⟨first, others⟩ := List.forall_mem_cons.mp printable
      have cells_cons : lineCells (char :: rest) = cells char + lineCells rest := rfl
      rw [cells_cons, cells_printable first, ih others, List.length_cons, Nat.add_comm]

end Characters

section Wrapping
variable {columns : Nat} {line : Line}

theorem expandTabs_shown (shown : ∀ char ∈ line, isShown char = true) (column : Nat) :
    expandTabs column line = line := by
  simpa [expandTabs] using expandTabs_append shown column []

theorem lineCells_trimEnd_le (line : Line) : lineCells (trimEnd line) ≤ lineCells line := by
  obtain ⟨blanks, split⟩ : trimEnd line <+: line := List.rdropWhile_prefix Text.isBlank line
  have sum := lineCells_append (trimEnd line) blanks
  rw [split] at sum
  omega

/-- The first word of a line takes a character that is not blank. -/
theorem length_behind_word_lt (worded : line.dropWhile Text.isBlank ≠ []) :
    ((line.dropWhile Text.isBlank).dropWhile fun char => !Text.isBlank char).length <
      (line.dropWhile Text.isBlank).length := by
  have start := List.head_dropWhile_not Text.isBlank worded
  cases rest : line.dropWhile Text.isBlank with
  | nil => exact absurd rest worded
  | cons char behind =>
      have letter : Text.isBlank char = false := by simpa [rest] using start
      rw [List.dropWhile_cons_of_pos (by simp [letter])]
      exact Nat.lt_succ_of_le (List.length_dropWhile_le _ behind)

/-- A line that is not blank is made up of its words. -/
theorem flatten_wordsWithin {bound : Nat} {line : Line} (enough : line.length ≤ bound)
    (worded : line.dropWhile Text.isBlank ≠ []) : (wordsWithin bound line).flatten = line := by
  induction bound generalizing line with
  | zero =>
      obtain rfl := List.eq_nil_of_length_eq_zero (Nat.le_zero.mp enough)
      exact absurd rfl worded
  | succ bound ih =>
      let rest := line.dropWhile Text.isBlank
      let letter := fun char => !Text.isBlank char
      let behind := rest.dropWhile letter
      let later := behind.dropWhile Text.isBlank
      have first : wordsWithin (bound + 1) line =
          (line.takeWhile Text.isBlank ++ rest.takeWhile letter ++ behind.takeWhile Text.isBlank) ::
            wordsWithin bound later := by
        rw [wordsWithin]
        simp [rest, worded, behind, letter, later]
      have others : (wordsWithin bound later).flatten = later := by
        by_cases ended : later = []
        · rw [ended]
          cases bound <;> rfl
        · -- what is left has no blanks in front, so it is not blank either
          have shorter : later.length ≤ bound := by
            have word : behind.length < rest.length := length_behind_word_lt worded
            have drops : rest.length ≤ line.length := List.length_dropWhile_le _ line
            have drops_later : later.length ≤ behind.length := List.length_dropWhile_le _ behind
            omega
          have still : later.dropWhile Text.isBlank = later := List.dropWhile_idempotent _ behind
          refine ih shorter ?_
          rwa [still]
      rw [first, List.flatten_cons, others]
      simp only [List.append_assoc, later, List.takeWhile_append_dropWhile, behind, rest]

theorem placeWord_fits {lines : List Line} {word : Line}
    (fits : lineCells (lines.headD [] ++ word) ≤ columns) :
    placeWord columns lines word = (lines.headD [] ++ word) :: lines.tail := by
  have trimmed := lineCells_trimEnd_le word
  rw [lineCells_append] at fits
  have room : lineCells (lines.headD []) + lineCells (trimEnd word) ≤ columns := by omega
  rw [placeWord]
  exact if_pos room

/-- Words that fit go all into one line. -/
theorem foldl_placeWord {current : Line} {found : List Line}
    (fits : lineCells (current ++ found.flatten) ≤ columns) :
    found.foldl (placeWord columns) [current] = [current ++ found.flatten] := by
  induction found generalizing current with
  | nil => simp
  | cons word rest ih =>
      rw [List.flatten_cons, ← List.append_assoc] at fits ⊢
      have here : lineCells (current ++ word) ≤ columns := by
        rw [lineCells_append] at fits
        omega
      have placed : placeWord columns [current] word = [current ++ word] := placeWord_fits here
      rw [List.foldl_cons, placed, ih fits]

theorem cutEnd_fits (fits : lineCells line ≤ columns) (short : line.length ≤ columns) :
    cutEnd columns line = line := by
  have whole : line.length ≤ max (trimEnd line).length columns :=
    Nat.le_trans short (Nat.le_max_right _ _)
  rw [cutEnd, List.take_of_length_le whole]
  exact clip_of_lineCells_le columns line fits

/-- A line that fits is printed as it stands, with its blanks. -/
theorem wrapLine_fits (shown : ∀ char ∈ line, isShown char = true)
    (fits : lineCells line ≤ columns) (short : line.length ≤ columns) :
    wrapLine columns line = [line] := by
  have kept := cutEnd_fits fits short
  rw [wrapLine, expandTabs_shown shown]
  cases found : words line with
  | nil => simp [kept]
  | cons word rest =>
      have worded : line.dropWhile Text.isBlank ≠ [] := by
        intro blank
        cases line <;> simp [words, wordsWithin, blank] at found
      have whole : word ++ rest.flatten = line :=
        (congrArg List.flatten found).symm.trans (flatten_wordsWithin le_rfl worded)
      rw [← whole] at fits
      have here : lineCells word ≤ columns := by
        rw [lineCells_append] at fits
        omega
      have placed : (word :: rest).foldl (placeWord columns) [] = [line] := by
        have first : placeWord columns [] word = [word] := placeWord_fits here
        rw [List.foldl_cons, first, foldl_placeWord fits, whole]
      simp [placed, kept]

theorem filter_shown (shown : ∀ char ∈ line, isShown char = true) :
    line.filter (fun char => !isControl char) = line := by
  refine List.filter_eq_self.mpr fun char member => ?_
  have plain := shown char member
  simp only [isShown, Bool.and_eq_true] at plain
  exact plain.2

theorem newline_not_mem (shown : ∀ char ∈ line, isShown char = true) : '\n' ∉ line :=
  fun member => absurd (shown _ member) (by decide)

theorem linesOf_shown (shown : ∀ char ∈ line, isShown char = true) : linesOf line = [line] := by
  rw [linesOf, filter_shown shown, List.splitOn_eq_singleton (newline_not_mem shown)]

end Wrapping

theorem splitOn_printed {lines : List Line} (unbroken : ∀ line ∈ lines, '\n' ∉ line) :
    (printed lines).toList.splitOn '\n' = lines ++ [[]] := by
  induction lines with
  | nil => rfl
  | cons line rest ih =>
      obtain ⟨first, others⟩ := List.forall_mem_cons.mp unbroken
      rw [toList_printed, List.splitOn_append_cons_self_of_not_mem first, ih others,
        List.cons_append]

section Panel
variable {title : String} {text : List Char}

theorem measure_printable (printable : ∀ char ∈ text, isPrintable char = true) :
    measure text = text.length := by
  have shown := fun char member => isShown_printable (printable char member)
  have unbroken := fun char member => breaksMeasure_printable (printable char member)
  rw [measure, filter_shown shown, List.splitOnP_eq_singleton unbroken,
    ← lineCells_printable printable]
  simp [widest]

/-- A text between the sides of a panel, with blanks behind it up to the right one. -/
def panelRow (padding : Nat) (text : List Char) : Line :=
  '│' :: ' ' :: (text ++ spaces padding) ++ [' ', '│']

/-- The lines of an output that start with a side of a panel. -/
def panelRows (output : String) : List Line :=
  (output.toList.splitOn '\n').filter fun line => line.head? == some '│'

theorem newline_not_mem_panelRow {padding : Nat} (unbroken : '\n' ∉ text) :
    '\n' ∉ panelRow padding text := by
  simp [panelRow, spaces, unbroken]

/-- Between its upper and its lower border a panel has the text on one line. -/
theorem panel_printable (printable : ∀ char ∈ text, isPrintable char = true)
    (fits : text.length ≤ width - 4) (unbroken : '\n' ∉ title.toList) :
    ∃ top padding bottom, panel title text = ['╭' :: top, panelRow padding text, '╰' :: bottom] ∧
      '\n' ∉ top ∧ '\n' ∉ bottom := by
  have shown := fun char member => isShown_printable (printable char member)
  have cells := lineCells_printable printable
  let heading := ' ' :: title.toList ++ [' ']
  let inner := min (width - 4) (max (lineCells heading) (measure text))
  -- a panel is as wide as its text asks for, as far as the console allows
  have room : text.length ≤ inner :=
    le_min fits ((measure_printable printable).ge.trans (le_max_right _ _))
  have row : wrap inner text = [text] := by
    simp [wrap, linesOf_shown shown, wrapLine_fits shown (cells.trans_le room) room]
  refine ⟨'─' :: centre '─' inner heading ++ ['─', '╮'], inner - lineCells text,
    List.replicate (inner + 2) '─' ++ ['╯'], ?_, ?_, ?_⟩
  · show _ :: (wrap inner text).map _ ++ _ = _
    rw [row]
    rfl
  · simp [centre, heading, unbroken]
  · simp

theorem panelRows_panel (printable : ∀ char ∈ text, isPrintable char = true)
    (fits : text.length ≤ width - 4) (unbroken : '\n' ∉ title.toList) :
    ∃ padding, panelRows (printed (panel title text)) = [panelRow padding text] := by
  obtain ⟨top, padding, bottom, lines, above, below⟩ :=
    panel_printable printable fits unbroken
  have within : '\n' ∉ text :=
    newline_not_mem fun char member => isShown_printable (printable char member)
  have each : ∀ line ∈ panel title text, '\n' ∉ line := by
    rw [lines]
    simp [above, below, newline_not_mem_panelRow within]
  refine ⟨padding, ?_⟩
  rw [panelRows, splitOn_printed each, lines]
  rfl

theorem marks_panelRow (padding : Nat) (text : List Char) :
    marks (panelRow padding text) = marks text := by
  simp [marks, panelRow, spaces, List.countP_replicate]

end Panel

end MonkeyLang.Console

namespace MonkeyLang.CommandLine

open Console

/-- The program ends well and shows a text, which is one line, in a panel. -/
def Outcome.Shows (outcome : Outcome) (text : List Char) : Prop :=
  outcome.exitCode = 0 ∧ ∃ padding, panelRows outcome.stdout = [panelRow padding text]

theorem Outcome.Shows.marks_eq {outcome : Outcome} {text seen : List Char}
    (shows : outcome.Shows text) (shows' : outcome.Shows seen) : marks text = marks seen := by
  obtain ⟨-, padding, row⟩ := shows
  obtain ⟨-, padding', row'⟩ := shows'
  have same : panelRow padding text = panelRow padding' seen :=
    List.singleton_inj.mp (row.symm.trans row')
  rw [← marks_panelRow padding text, same, marks_panelRow]

/-- How the program shows the tree of a file. -/
theorem execute_ast {surroundings : Surroundings} {path : String} {words : List String}
    {separated : Words} {content : List UInt8}
    (read : separate astCommand true words = .ok separated)
    (asked : separated.flags.contains helpFlag.name = false)
    (operand : separated.arguments = [path]) (file : surroundings.file path = .bytes content) :
    execute surroundings ("ast" :: words) = some (showDocument content) := by
  have opened : readOperand surroundings separated.arguments = .ok content := by
    rw [operand, readOperand, file]
    rfl
  have known : ("ast", astCommand) ∈ readers := by simp [readers]
  simp only [execute, separate_name known words]
  simp only [List.isEmpty_cons, Bool.false_eq_true, if_false, perform, read, asked, opened]
  rfl

section Tree
variable {content : List UInt8} {node : Node} {seen : List Char} {fault : MarkupFault}

theorem showDocument_shown (decoded : Document.ofBytes content = .ok node)
    (shows : shown node.render.toList = .ok seen) :
    showDocument content =
      { exitCode := 0, stdout := printed (panel "Abstract Syntax Tree" seen) } := by
  simp only [showDocument, decoded, shows]

theorem showDocument_fault (decoded : Document.ofBytes content = .ok node)
    (fails : shown node.render.toList = .error fault) :
    showDocument content = crashOutcome (.markup fault) := by
  simp only [showDocument, decoded, fails]

/-- What is shown of a text fits where the text does. -/
theorem showDocument_shows (decoded : Document.ofBytes content = .ok node)
    (printable : ∀ char ∈ node.render.toList, isPrintable char = true)
    (fits : node.render.toList.length ≤ width - 4)
    (shows : shown node.render.toList = .ok seen) : (showDocument content).Shows seen := by
  have part := shown_sublist shows
  rw [showDocument_shown decoded shows]
  exact ⟨rfl, panelRows_panel (fun char member => printable char (part.subset member))
    (part.length_le.trans fits) (by decide)⟩

theorem exists_of_rendered {text : String}
    (rendered : (Document.ofBytes content).toOption.map Node.render = some text) :
    ∃ node, Document.ofBytes content = .ok node ∧ node.render = text := by
  cases decoded : Document.ofBytes content with
  | error error => simp [decoded, Except.toOption] at rendered
  | ok node => exact ⟨node, rfl, by simpa [decoded, Except.toOption] using rendered⟩

end Tree

theorem separate_path : separate astCommand true ["f"] = .ok { arguments := ["f"] } := by
  have start : "f".startsWith "-" = false :=
    String.startsWith_string_eq_false_iff.mpr (by decide)
  have dashless : isFlag "f" = false := by
    rw [isFlag, start]
    rfl
  rw [separate, if_neg (by decide), dashless]
  rfl

/-- `[1]` -/
def arrayDocument : List UInt8 :=
  utf8Bytes ("\x7b\"node\":\"ArrayLiteral\",\"elements\":[" ++
    "\x7b\"node\":\"IntegerLiteral\",\"value\":1\x7d]\x7d")

/-- `(a[i])` -/
def indexDocument : List UInt8 :=
  utf8Bytes ("\x7b\"node\":\"IndexExpression\"," ++
    "\"left\":\x7b\"node\":\"Identifier\",\"value\":\"a\"\x7d," ++
    "\"index\":\x7b\"node\":\"Identifier\",\"value\":\"i\"\x7d\x7d")

end MonkeyLang.CommandLine
