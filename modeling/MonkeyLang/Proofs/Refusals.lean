import MonkeyLang.CommandLine.Program
import MonkeyLang.Proofs.Markup
import MonkeyLang.Proofs.Stumbling
import MonkeyLang.Proofs.Wrapping

/-!
What becomes of documents that cannot be decoded. The commands answer every refusal with its
complaint behind a label, and decoding refuses whatever it does not stumble over. Texts may
also hold integers with too many digits, and those end a command.
-/

namespace MonkeyLang

namespace CommandLine

open Console

/-- Whatever a complaint says, it is shown behind its label. -/
theorem shown_complaint (message : List Char) : ∃ more,
    shown (styled "bold red" "AST Error:".toList ++ ' ' :: escapeMarkup message) =
      .ok ("AST Error:".toList ++ ' ' :: more) := by
  let escaped := escapeMarkup message
  let plain := fun char : Char => decide (char ≠ '\\') && decide (char ≠ '[')
  have split : pieces (styled "bold red" "AST Error:".toList ++ ' ' :: escaped) =
      .text [] :: .tag ⟨"bold red".toList, none⟩ :: .text "AST Error:".toList :: .text [] ::
        .tag ⟨'/' :: "bold red".toList, none⟩ :: .text (' ' :: escaped.takeWhile plain) ::
          piecesWithin (escaped.length + 28) 0 (escaped.dropWhile plain) := rfl
  have others : Plain (piecesWithin (escaped.length + 28) 0 (escaped.dropWhile plain)) :=
    plain_dropWhile (plain_escapeMarkup message) _
  obtain ⟨text, shows⟩ : ∃ text,
      showPieces [] (piecesWithin (escaped.length + 28) 0 (escaped.dropWhile plain)) = .ok text :=
    showPieces_plain others
  have begun : follow ⟨"bold red".toList, none⟩ [] =
      .ok [⟨Style.normalForm "bold red".toList, none⟩] := rfl
  have ended : follow ⟨'/' :: "bold red".toList, none⟩
      [⟨Style.normalForm "bold red".toList, none⟩] = .ok [] := follow_end rfl (by decide)
  refine ⟨escaped.takeWhile plain ++ text, ?_⟩
  rw [shown, split]
  exact showPieces_text (showPieces_tag begun (showPieces_text (showPieces_text
    (showPieces_tag ended (showPieces_text shows)))))

theorem documentOutcome_refusal {error : DocumentError} (refused : error.isRefusal = true) :
    (documentOutcome error).exitCode = 1 ∧ (documentOutcome error).stderr = "" ∧
      (documentOutcome error).crash = none ∧
      "AST Error:".toList <+: (documentOutcome error).stdout.toList := by
  obtain ⟨more, shows⟩ := shown_complaint error.message.toList
  have reported : documentOutcome error =
      { exitCode := 1, stdout := printed (wrap width ("AST Error:".toList ++ ' ' :: more)) } := by
    rw [documentOutcome, if_pos refused, markupOutcome, shows]
    rfl
  rw [reported]
  exact ⟨rfl, rfl, rfl, printed_label more⟩

theorem documentOutcome_crash {error : DocumentError} (unread : error.isRefusal = false) :
    documentOutcome error = crashOutcome (.document error) := by
  simp [documentOutcome, unread]

/-- The commands that read a document, by name. -/
def readers : List (String × Command) :=
  [("run", runCommand), ("ast", astCommand)]

theorem separate_name {name : String} {command : Command} (known : (name, command) ∈ readers)
    (words : List String) :
    separate topCommand false (name :: words) = .ok { arguments := name :: words } := by
  have unflagged : isFlag name = false ∧ name ≠ "--" := by
    simp only [readers, List.mem_cons, List.not_mem_nil, or_false, Prod.mk.injEq] at known
    rcases known with ⟨rfl, -⟩ | ⟨rfl, -⟩
    · have dashless : "run".startsWith "-" = false :=
        String.startsWith_string_eq_false_iff.mpr (by decide)
      exact ⟨by rw [isFlag, dashless]; rfl, by decide⟩
    · have dashless : "ast".startsWith "-" = false :=
        String.startsWith_string_eq_false_iff.mpr (by decide)
      exact ⟨by rw [isFlag, dashless]; rfl, by decide⟩
  rw [separate, if_neg unflagged.2, unflagged.1]
  rfl

/-- How the program ends when a file holds no program. -/
theorem execute_undecoded {surroundings : Surroundings} {name path : String} {command : Command}
    {words : List String} {separated : Words} {content : List UInt8} {error : DocumentError}
    (known : (name, command) ∈ readers) (read : separate command true words = .ok separated)
    (asked : separated.flags.contains helpFlag.name = false)
    (operand : separated.arguments = [path]) (file : surroundings.file path = .bytes content)
    (failed : Document.ofBytes content = .error error) :
    execute surroundings (name :: words) = some (documentOutcome error) := by
  have opened : readOperand surroundings separated.arguments = .ok content := by
    rw [operand, readOperand, file]
    rfl
  simp only [execute, separate_name known words]
  simp only [readers, List.mem_cons, List.not_mem_nil, or_false, Prod.mk.injEq] at known
  rcases known with ⟨rfl, rfl⟩ | ⟨rfl, rfl⟩
  · simp only [List.isEmpty_cons, Bool.false_eq_true, if_false, perform, read, asked, opened]
    show runDocument surroundings separated.flags content = _
    rw [runDocument, failed]
  · simp only [List.isEmpty_cons, Bool.false_eq_true, if_false, perform, read, asked, opened]
    show some (showDocument content) = _
    rw [showDocument, failed]

/-- The surroundings in which the one file holds `content`. -/
def oneFile (content : List UInt8) : Surroundings where
  file path := if path = "f" then .bytes content else .absent
  depth := 0

end CommandLine

end MonkeyLang
