import Scorebook.CommandLine
/-!
# The program

Reads the files that the arguments name, prints what the command line prints for them, and complains on
the error stream.
-/

def readIfPossible (file : String) : IO (Option String) := do
  try
    return some (← IO.FS.readFile file)
  catch _ => return none

def main (args : List String) : IO UInt32 := do
  let texts ← (Scorebook.CommandLine.filesOf args).mapM (fun file => do
    return (file, ← readIfPossible file))
  let files (file : String) : Option String := (texts.lookup file).join
  match Scorebook.CommandLine.run files args with
  | .ok text =>
    IO.print text
    return 0
  | .error complaint =>
    IO.eprintln ("Error: " ++ complaint.text)
    return complaint.exitCode
