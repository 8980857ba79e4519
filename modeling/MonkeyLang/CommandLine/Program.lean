import MonkeyLang.CommandLine.Arguments
import MonkeyLang.Console.Layout
import MonkeyLang.Document
import MonkeyLang.Eval.Evaluator

/-!
The program behind the command line, as a function of its arguments, of what the
files hold, and of the level at which the log starts.
-/

namespace MonkeyLang.CommandLine

open Console

/-- What is found under a path. -/
inductive FileContent where
  | absent
  | directory
  /-- No file can have such a name. -/
  | unnameable
  | bytes (content : List UInt8)

/-- A failure that no command answers for. -/
inductive Crash where
  | document (error : DocumentError)
  | markup (fault : MarkupFault)
  | unnameablePath

def Crash.message : Crash → String
  | document error => error.message
  | markup fault => fault.message
  | unnameablePath => "embedded null byte"

structure Outcome where
  exitCode : Nat
  stdout : String := ""
  stderr : String := ""
  crash : Option Crash := none
  log : Array LogRecord := #[]

/-- What a run of the program depends on. -/
structure Surroundings where
  file : String → FileContent
  level : Level := .none
  /-- How deeply nodes may be nested during evaluation. -/
  depth : Nat

/-- Why a command does not start. -/
inductive Refusal where
  | usage (error : UsageError)
  | crash (crash : Crash)

def crashOutcome (crash : Crash) : Outcome :=
  { exitCode := 1, crash := some crash }

def usageOutcome (command : Command) (error : UsageError) : Outcome :=
  { exitCode := 2, stderr := error.report command }

def refusalOutcome (command : Command) : Refusal → Outcome
  | .usage error => usageOutcome command error
  | .crash crash => crashOutcome crash

/-- Bytes of the one file that a command is given. -/
def readOperand (surroundings : Surroundings) : List String → Except Refusal (List UInt8)
  | [] => .error (.usage .missingFile)
  | path :: extra =>
      match surroundings.file path with
      | .absent => .error (.usage (.absentFile path))
      | .directory => .error (.usage (.directory path))
      | .unnameable => .error (.crash .unnameablePath)
      | .bytes content =>
          if extra.isEmpty then .ok content else .error (.usage (.unexpectedArguments extra))

/-- Print markup behind lines that are already printed. -/
def markupOutcome (exitCode : Nat) (before : List Line) (markup : List Char) : Outcome :=
  match shown markup with
  | .ok text => { exitCode, stdout := printed (before ++ wrap width text) }
  | .error fault => { crashOutcome (.markup fault) with stdout := printed before }

/-- A document that is refused is reported; one that cannot be read ends the program. -/
def documentOutcome (error : DocumentError) : Outcome :=
  if error.isRefusal then
    markupOutcome 1 []
      (styled "bold red" "AST Error:".toList ++ ' ' :: escapeMarkup error.message.toList)
  else crashOutcome (.document error)

/-- The counters by name, in the order in which they are shown. -/
def counterRows (counters : Counters) : List (String × Nat) :=
  [("evaluated_statements", counters.statements), ("errors", counters.errors),
    ("function_calls", counters.functionCalls), ("builtin_calls", counters.builtinCalls),
    ("max_statements_in_block", counters.largestBlock)]

def summaryTable (counters : Counters) : Table where
  title := "Evaluation Summary"
  columns := [{ header := "Counter" }, { header := "Value", flushRight := true }]
  rows := (counterRows counters).map fun row => [row.1, toString row.2]

def builtinsTable : Table where
  title := "Builtins"
  columns := [{ header := "Name" }, { header := "Object" }]
  rows := Builtin.all.map fun callee => [callee.name, (Value.builtin callee).inspect]

/-- The result of an evaluation as printed. Brackets in it are not markup. -/
def resultOutcome (before : List Line) (value : Value) : Outcome :=
  let text := value.inspect.toList
  if value.isError then markupOutcome 1 before (styled "bold red" (escapeMarkup text))
  else { exitCode := 0, stdout := printed (before ++ wrap width text) }

/-- Evaluate the tree of a document in a fresh scope. There is no outcome when the nodes
are nested too deeply. -/
def runDocument (surroundings : Surroundings) (flags : List String) (content : List UInt8) :
    Option Outcome :=
  match Document.ofBytes content with
  | .error error => some (documentOutcome error)
  | .ok node => do
      let start := { State.initial with level := surroundings.level }
      let (value, state) ←
        Eval.evaluate surroundings.depth node 0 (flags.contains "--debug") start
      let summary := if flags.contains "--stats" then (summaryTable state.counters).render else []
      return { resultOutcome summary value with log := state.log }

/-- The text of a tree in a panel. Brackets in it are markup. -/
def showDocument (content : List UInt8) : Outcome :=
  match Document.ofBytes content with
  | .error error => documentOutcome error
  | .ok node =>
      match shown node.render.toList with
      | .ok text => { exitCode := 0, stdout := printed (panel "Abstract Syntax Tree" text) }
      | .error fault => crashOutcome (.markup fault)

/-- Carry out one command with the words behind its name. -/
def perform (command : Command) (words : List String)
    (action : List String → List String → Except Refusal (Option Outcome)) : Option Outcome :=
  match separate command true words with
  | .error error => some (usageOutcome command error)
  | .ok words =>
      if words.flags.contains helpFlag.name then
        some { exitCode := 0, stdout := command.helpText }
      else
        match action words.flags words.arguments with
        | .error refusal => some (refusalOutcome command refusal)
        | .ok outcome => outcome

/-- A word that stands where a command is expected but starts with neither a letter nor a
digit asks for help. -/
def asksForHelp (word : String) : Bool :=
  match word.toList with
  | [] => false
  | first :: _ => !Text.isAlphanumeric first

/-- The program. -/
def execute (surroundings : Surroundings) (words : List String) : Option Outcome :=
  if words.isEmpty then some { exitCode := 0, stdout := topHelpText }
  else
    match separate topCommand false words with
    | .error error => some (usageOutcome topCommand error)
    | .ok { flags := flag :: _, .. } =>
        some { exitCode := 0, stdout := if flag = helpFlag.name then topHelpText else versionText }
    | .ok { flags := [], arguments := [] } => some (usageOutcome topCommand .missingCommand)
    | .ok { flags := [], arguments := name :: rest } =>
        match name with
        | "run" => perform runCommand rest fun flags arguments => do
            let content ← readOperand surroundings arguments
            return runDocument surroundings flags content
        | "ast" => perform astCommand rest fun _ arguments => do
            let content ← readOperand surroundings arguments
            return some (showDocument content)
        | "builtins" => perform builtinsCommand rest fun _ arguments =>
            if arguments.isEmpty then
              .ok (some { exitCode := 0, stdout := printed builtinsTable.render })
            else .error (.usage (.unexpectedArguments arguments))
        | _ =>
            if asksForHelp name then some { exitCode := 0, stdout := topHelpText }
            else some (usageOutcome topCommand (.unknownCommand name))

end MonkeyLang.CommandLine
