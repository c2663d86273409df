import EntitySearch.CommandLine

namespace EntitySearch.CommandLine

def readContent? (path : String) : IO (Option String) := do
  try
    return some (← IO.FS.readFile path)
  catch _ =>
    return none

def runProgram (args : List String) : IO Outcome :=
  match Command.ofArguments args with
  | .error refusal => return .ofRefusal usage refusal
  | .ok command =>
    match command.file? with
    | some path => return command.run (← readContent? path)
    | none => return command.run none

end EntitySearch.CommandLine

def main (args : List String) : IO UInt32 := do
  let outcome ← EntitySearch.CommandLine.runProgram args
  (← IO.getStdout).putStr outcome.output
  for message in outcome.log do
    (← IO.getStderr).putStrLn message
  (← IO.getStderr).putStr outcome.errors
  return .ofNat outcome.status
