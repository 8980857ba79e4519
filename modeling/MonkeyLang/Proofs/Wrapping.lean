import MonkeyLang.Console.Wrap
import Mathlib.Data.List.TakeWhile

/-!
The start of a printed text. A text is broken into lines behind words that fit, and blanks
are cut at the ends of lines only, so a label that the text starts with stands at the start
of what is printed.
-/

namespace MonkeyLang.Console

/-- Characters that are printed, and where they stand. -/
def isShown (char : Char) : Bool :=
  char ≠ '\n' && char ≠ '\t' && !isControl char

theorem linesOf_append {start : Line} (shown : ∀ char ∈ start, isShown char = true)
    (rest : List Char) :
    ∃ first others, linesOf (start ++ rest) = (start ++ first) :: others := by
  induction start with
  | nil =>
      cases lines : linesOf rest with
      | nil => exact absurd lines (List.splitOnP_ne_nil _ _)
      | cons first others => exact ⟨first, others, lines⟩
  | cons char start ih =>
      obtain ⟨here, later⟩ := List.forall_mem_cons.mp shown
      obtain ⟨first, others, lines⟩ := ih later
      simp only [isShown, Bool.and_eq_true, decide_eq_true_eq] at here
      refine ⟨first, others, ?_⟩
      rw [linesOf] at lines ⊢
      rw [List.cons_append, List.filter_cons_of_pos (p := fun char => !isControl char) here.2,
        List.splitOn, List.splitOnP_cons_eq_if_modifyHead, if_neg (by simpa using here.1.1)]
      rw [List.splitOn] at lines
      rw [lines]
      rfl

theorem expandTabs_append {start : Line} (shown : ∀ char ∈ start, isShown char = true)
    (column : Nat) (rest : Line) :
    expandTabs column (start ++ rest) = start ++ expandTabs (column + lineCells start) rest := by
  induction start generalizing column with
  | nil => rfl
  | cons char start ih =>
      obtain ⟨here, later⟩ := List.forall_mem_cons.mp shown
      simp only [isShown, Bool.and_eq_true, decide_eq_true_eq] at here
      have cells_cons : lineCells (char :: start) = cells char + lineCells start := rfl
      rw [List.cons_append, expandTabs, if_neg here.1.2, ih later, cells_cons, Nat.add_assoc]
      rfl

theorem trimEnd_append {blanks : Line} (blank : ∀ char ∈ blanks, Text.isBlank char = true)
    (word : Line) : trimEnd (word ++ blanks) = trimEnd word := by
  rw [trimEnd, trimEnd, List.reverse_append, List.dropWhile_append_of_pos]
  simpa using blank

section Start
variable {columns : Nat} {start : Line}

/-- The lines so far, of which the last stands first, go back to one with the start. -/
def Begins (start : Line) (lines : List Line) : Prop :=
  ∃ first, lines.getLast? = some first ∧ start <+: first

theorem begins_placeWord {lines : List Line} (begins : Begins start lines) (word : Line) :
    Begins start (placeWord columns lines word) := by
  obtain ⟨first, last, within⟩ := begins
  cases lines with
  | nil => cases last
  | cons current before =>
      unfold placeWord
      dsimp only
      split
      · cases before with
        | nil =>
            cases last
            exact ⟨_, rfl, within.trans (List.prefix_append _ _)⟩
        | cons next before => exact ⟨first, last, within⟩
      · split
        · exact ⟨first, by rw [List.getLast?_append, last]; rfl, within⟩
        · exact ⟨first, last, within⟩

theorem begins_foldl {lines : List Line} (begins : Begins start lines) (found : List Line) :
    Begins start (found.foldl (placeWord columns) lines) := by
  induction found generalizing lines with
  | nil => exact begins
  | cons word rest ih => exact ih (begins_placeWord begins word)

theorem prefix_clip {line : Line} (fits : lineCells start ≤ columns) (begins : start <+: line) :
    start <+: clip columns line := by
  induction start generalizing columns line with
  | nil => exact List.nil_prefix
  | cons char start ih =>
      obtain ⟨rest, rfl⟩ := begins
      have cells_cons : lineCells (char :: start) = cells char + lineCells start := rfl
      rw [List.cons_append, clip, if_pos (by omega)]
      exact List.cons_prefix_cons.mpr ⟨rfl, ih (by omega) (List.prefix_append _ _)⟩

theorem prefix_cutEnd {line : Line} (fits : lineCells start ≤ columns)
    (short : start.length ≤ columns) (begins : start <+: line) :
    start <+: cutEnd columns line := by
  apply prefix_clip fits
  exact List.prefix_take_iff.mpr ⟨begins, Nat.le_trans short (Nat.le_max_right _ _)⟩

/-- The first line of a text that goes on so. -/
theorem begins_wrapLine {line : Line} {found : List Line} (fits : lineCells start ≤ columns)
    (short : start.length ≤ columns) (words : words (expandTabs 0 line) = found)
    (begins : Begins start (found.foldl (placeWord columns) [])) :
    ∃ first others, wrapLine columns line = first :: others ∧ start <+: first := by
  obtain ⟨first, last, within⟩ := begins
  have head : (found.foldl (placeWord columns) []).reverse.head? = some first := by
    rw [List.head?_reverse, last]
  obtain ⟨others, lines⟩ := List.head?_eq_some_iff.mp head
  cases found with
  | nil => cases last
  | cons word rest =>
      refine ⟨cutEnd columns first, others.map (cutEnd columns), ?_,
        prefix_cutEnd fits short within⟩
      simp only [wrapLine, words, lines, List.map_cons]

end Start

theorem toList_printed (first : Line) (others : List Line) :
    (printed (first :: others)).toList = first ++ '\n' :: (printed others).toList := by
  simp [printed, String.join_cons]

/-- A label of two words in front of a text is printed first. -/
theorem printed_label (text : List Char) :
    "AST Error:".toList <+: (printed (wrap width ("AST Error:".toList ++ ' ' :: text))).toList := by
  have shown : ∀ char ∈ "AST Error: ".toList, isShown char = true :=
    List.all_eq_true.mp rfl
  obtain ⟨rest, others, lines⟩ := linesOf_append shown text
  let line := expandTabs (0 + lineCells "AST Error: ".toList) rest
  let blanks := line.takeWhile Text.isBlank
  let later := wordsWithin (line.length + 9) (line.dropWhile Text.isBlank)
  have found : words (expandTabs 0 ("AST Error: ".toList ++ rest)) =
      "AST ".toList :: ("Error: ".toList ++ blanks) :: later := by
    rw [expandTabs_append shown]
    rfl
  have second : placeWord width ["AST ".toList] ("Error: ".toList ++ blanks) =
      ["AST Error: ".toList ++ blanks] := by
    have cells : lineCells (trimEnd ("Error: ".toList ++ blanks)) = 6 := by
      rw [trimEnd_append fun char member => List.mem_takeWhile_imp member]
      rfl
    rw [placeWord, cells]
    rfl
  have begins : Begins "AST Error:".toList
      (("AST ".toList :: ("Error: ".toList ++ blanks) :: later).foldl (placeWord width) []) := by
    have first : placeWord width [] "AST ".toList = ["AST ".toList] := rfl
    rw [List.foldl_cons, List.foldl_cons, first, second]
    exact begins_foldl ⟨_, rfl, [' '] ++ blanks, rfl⟩ later
  obtain ⟨first, more, wrapped, within⟩ := begins_wrapLine (by decide) (by decide) found begins
  have all : wrap width ("AST Error:".toList ++ ' ' :: text) =
      first :: (more ++ others.flatMap (wrapLine width)) := by
    show (linesOf ("AST Error: ".toList ++ text)).flatMap (wrapLine width) = _
    rw [lines, List.flatMap_cons, wrapped]
    rfl
  rw [all, toList_printed]
  exact within.trans (List.prefix_append _ _)

end MonkeyLang.Console
