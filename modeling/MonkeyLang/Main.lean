import MonkeyLang.CommandLine.Program

/-!
The executable: it looks at the file that the arguments name, runs the program, and
prints what comes out. Log records go to the standard error.
-/

namespace MonkeyLang.CommandLine

/-- What is found under a path; a path that cannot be opened counts as absent. -/
def lookAt (path : String) : IO FileContent := do
  try
    let content ← IO.FS.readBinFile path
    return .bytes content.data.toList
  catch error =>
    match error with
    | .inappropriateType .. => return .directory
    | _ => return .absent

end MonkeyLang.CommandLine

open MonkeyLang

/-- Every argument is looked at as a path beforehand, so that the program needs no access
to the file system. -/
def main (arguments : List String) : IO UInt32 := do
  let files ← arguments.mapM fun path => return (path, ← CommandLine.lookAt path)
  let surroundings : CommandLine.Surroundings :=
    { file := fun path => (files.lookup path).getD .absent
      level := .ofSetting (← IO.getEnv "MONKEY_DEBUG")
      depth := 1000000 }
  match CommandLine.execute surroundings arguments with
  | none =>
      IO.eprintln "evaluation is nested too deeply"
      return 1
  | some outcome =>
      for record in outcome.log do
        IO.eprintln record.event.message
      IO.eprint outcome.stderr
      IO.print outcome.stdout
      match outcome.crash with
      | some error => IO.eprintln error.message
      | none => pure ()
      return outcome.exitCode.toUInt32
