import MonkeyLang.CommandLine.Usage
import MonkeyLang.Text.Similarity

/-!
Reading the words of a command line. A word that starts with a dash is a flag; two
dashes alone end the flags. The program's own flags come before the command, those
of a command may stand among its arguments.
-/

namespace MonkeyLang.CommandLine

/-- Flags and arguments, each in order. -/
structure Words where
  flags : List String := []
  arguments : List String := []
  deriving DecidableEq, Repr

/-- The flag that a word names, when the command has it. -/
def readFlag (command : Command) (word : String) : Except UsageError String :=
  let chars := word.toList
  let name := String.ofList (chars.takeWhile (· ≠ '='))
  let known := command.flags.map Flag.name
  if known.contains name then
    if chars.contains '=' then .error (.unexpectedValue name) else .ok name
  else
    match chars with
    | '-' :: '-' :: _ =>
        let similar := known.filter fun other => Text.similar other.toList name.toList
        .error (.unknownFlag name (similar.mergeSort fun left right => decide (left ≤ right)))
    | _ => .error (.unknownFlag (String.ofList (chars.take 2)) [])

def isFlag (word : String) : Bool :=
  word.startsWith "-" && word.length > 1

/-- Separate flags from arguments. With `interspersed` flags may follow an argument,
otherwise the first argument ends them. -/
def separate (command : Command) (interspersed : Bool) : List String → Except UsageError Words
  | [] => .ok {}
  | word :: rest =>
      if word = "--" then .ok { arguments := rest }
      else if isFlag word then do
        let flag ← readFlag command word
        let others ← separate command interspersed rest
        return { others with flags := flag :: others.flags }
      else if interspersed then do
        let others ← separate command interspersed rest
        return { others with arguments := word :: others.arguments }
      else .ok { arguments := word :: rest }

end MonkeyLang.CommandLine
