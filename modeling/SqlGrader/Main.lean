import SqlGrader.CommandLine.Program

/-!
# Command line

Reads the files that the arguments name, runs the program on them, and prints what it gives.
-/

set_option autoImplicit false

namespace SqlGrader.CommandLine

def readText (path : String) : IO (Option String) := do
  try
    let text ← IO.FS.readFile path
    return some text
  catch _ => return none

end SqlGrader.CommandLine

open SqlGrader

def main (args : List String) : IO UInt32 := do
  let paths := match CommandLine.parse args with
    | .ok arguments => CommandLine.paths arguments
    | .error _ => []
  let texts ← paths.mapM fun path => return (path, ← CommandLine.readText path)
  let outcome := CommandLine.outcome (fun path => (texts.lookup path).join) args
  IO.print outcome.stdout
  IO.eprint outcome.stderr
  return outcome.code.toUInt32
