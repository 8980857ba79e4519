import MonkeyLang.Text.Quoted

/-!
The commands of the program, the texts that explain them, and the ways in which a
command line can be wrong.
-/

namespace MonkeyLang.CommandLine

structure Flag where
  name : String
  help : String

/-- The flag that every command has. -/
def helpFlag : Flag := ⟨"--help", "Show this message and exit."⟩

/-- What can stand behind the program's name, or the program itself. -/
structure Command where
  /-- The words with which it is called. -/
  path : String
  help : String
  flags : List Flag
  /-- What follows the flags in a call. -/
  operands : List String

def runCommand : Command where
  path := "monkey run"
  help := "Evaluate a JSON-encoded AST"
  flags :=
    [⟨"--debug", "Log every evaluation step."⟩, ⟨"--stats", "Print evaluation counters afterwards."⟩,
      helpFlag]
  operands := ["FILE"]

def astCommand : Command where
  path := "monkey ast"
  help := "Show the canonical source rendering of a JSON-encoded AST"
  flags := [helpFlag]
  operands := ["FILE"]

def builtinsCommand : Command where
  path := "monkey builtins"
  help := "List the built-in functions"
  flags := [helpFlag]
  operands := []

def topCommand : Command where
  path := "monkey"
  help := "Monkey runtime core - evaluate pre-built ASTs"
  flags := [⟨"--version", "Show the version and exit."⟩, helpFlag]
  operands := ["COMMAND", "[ARGS]..."]

/-- The commands by name, in alphabetical order. -/
def commands : List (String × Command) :=
  [("ast", astCommand), ("builtins", builtinsCommand), ("run", runCommand)]

def versionText : String := "Monkey, version 0.1.0\n"

namespace Command

def usageLine (command : Command) : String :=
  "Usage: " ++ " ".intercalate (command.path :: "[OPTIONS]" :: command.operands) ++ "\n"

/-- Names with their explanations in a second column. -/
def definitions (title : String) (entries : List (String × String)) : String :=
  let longest := entries.foldl (fun most entry => max most entry.1.length) 0
  let row := fun (entry : String × String) =>
    "  " ++ entry.1 ++ String.ofList (List.replicate (longest + 2 - entry.1.length) ' ') ++
      entry.2 ++ "\n"
  "\n" ++ title ++ ":\n" ++ String.join (entries.map row)

def helpText (command : Command) : String :=
  command.usageLine ++ "\n  " ++ command.help ++ "\n" ++
    definitions "Options" (command.flags.map fun flag => (flag.name, flag.help))

end Command

def topHelpText : String :=
  topCommand.helpText ++
    Command.definitions "Commands" (commands.map fun entry => (entry.1, entry.2.help))

inductive UsageError where
  | missingCommand
  | unknownCommand (name : String)
  /-- The flags that have a similar name are suggested. -/
  | unknownFlag (name : String) (similar : List String)
  | unexpectedValue (flag : String)
  | missingFile
  | absentFile (path : String)
  | directory (path : String)
  | unexpectedArguments (extra : List String)
  deriving DecidableEq, Repr

def UsageError.message : UsageError → String
  | missingCommand => "Missing command."
  | unknownCommand name => "No such command " ++ Text.quoted name ++ "."
  | unknownFlag name [] => "No such option: " ++ name
  | unknownFlag name [similar] => "No such option: " ++ name ++ " Did you mean " ++ similar ++ "?"
  | unknownFlag name similar =>
      "No such option: " ++ name ++ " (Possible options: " ++ ", ".intercalate similar ++ ")"
  | unexpectedValue flag => "Option " ++ Text.quoted flag ++ " does not take a value."
  | missingFile => "Missing argument 'FILE'."
  | absentFile path => "Invalid value for 'FILE': File " ++ Text.quoted path ++ " does not exist."
  | directory path => "Invalid value for 'FILE': File " ++ Text.quoted path ++ " is a directory."
  | unexpectedArguments [extra] => "Got unexpected extra argument (" ++ extra ++ ")"
  | unexpectedArguments extra =>
      "Got unexpected extra arguments (" ++ " ".intercalate extra ++ ")"

/-- Whether the usage of the command is recalled. It is not when a flag is only written in
a wrong way. -/
def UsageError.recallsUsage : UsageError → Bool
  | unexpectedValue _ => false
  | _ => true

/-- What is printed when a command line is wrong. -/
def UsageError.report (error : UsageError) (command : Command) : String :=
  let usage :=
    if error.recallsUsage then
      command.usageLine ++ "Try '" ++ command.path ++ " --help' for help.\n\n"
    else ""
  usage ++ "Error: " ++ error.message ++ "\n"

end MonkeyLang.CommandLine
