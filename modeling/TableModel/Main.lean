import TableModel.CommandLine.Run

/-!
# The command line

Carries a run out: each request of its interaction is answered by the system, and a failure is told
on the standard error.
-/

namespace TableModel

def systemText (t : Text) : String := String.ofList t

/-- What comes of reading a file of the system. One that cannot be read is missing only if its path
leads nowhere. -/
def readSystemFile (path : Text) : IO Reading := do
  try return .content (← IO.FS.readBinFile (systemText path))
  catch _ =>
    try
      discard <| IO.FS.realPath (systemText path)
      return .unreadable
    catch _ => return .missing

def succeeds (action : IO Unit) : IO Bool := do
  try
    action
    return true
  catch _ => return false

/-- Carries an interaction out. The system answers where `Interaction.runIn` has the surroundings
answer. -/
def Interaction.perform {ε α : Type} : Interaction ε α → IO (Except ε α)
  | .done result => return .ok result
  | .fail failure => return .error failure
  | .readFile path next => do (next (← readSystemFile path)).perform
  | .readInput next => do (next (← (← IO.getStdin).readBinToEnd)).perform
  | .writeFile path bytes next => do
    (next (← succeeds (IO.FS.writeBinFile (systemText path) bytes))).perform
  | .print bytes next => do (next (← succeeds do (← IO.getStdout).write bytes)).perform
  | .flush next => do (next (← succeeds do (← IO.getStdout).flush)).perform

/-- Runs with the arguments and the system's environment, and gives the exit code. -/
def carryOut (arguments : List String) : IO UInt32 := do
  let environment ← Environment.collect fun name => return (← IO.getEnv name).map String.toList
  let invocation : Invocation := ⟨arguments.map String.toList, environment⟩
  let result ← invocation.run.perform
  if let .error failure := result then
    IO.eprintln ("Error: " ++ systemText failure.message)
  return UInt32.ofNat (Run.exitCode result)

end TableModel

def main (arguments : List String) : IO UInt32 := TableModel.carryOut arguments
