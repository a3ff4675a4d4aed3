import RobotsExclusion.Command.Session

/-!
# The command line

Reads the arguments, the environment and the one file that a run needs, and hands the rest to a
session of a single run. Notices and broken markup go to the error stream.
-/

namespace RobotsExclusion.Command

def readEnvironment : IO Environment :=
  [tieBreakVariable, duplicatesVariable].filterMapM fun variableName => do
    let value ← IO.getEnv (String.ofList variableName)
    return value.map fun v => (variableName, v.toList)

/-- The bytes of a file; none for anything that cannot be read as one. -/
def readFile? (name : Text) : IO (Option Bytes) :=
  try
    let bytes ← IO.FS.readBinFile (String.ofList name)
    return some bytes.toList
  catch _ => return none

end RobotsExclusion.Command

open RobotsExclusion RobotsExclusion.Command in
def main (arguments : List String) : IO UInt32 := do
  let arguments := arguments.map String.toList
  let env ← readEnvironment
  let name := requestedFile? env arguments
  let content ← (name.map readFile?).getD (return none)
  let files : Files := fun n => if name = some n then content else none
  let (_, result) := ({} : Session).run .wide env files arguments
  for notice in result.log do
    IO.eprintln (String.ofList notice.message)
  IO.print (String.ofList result.report.output)
  match result.report.outcome with
  | .exit code => return UInt32.ofNat code
  | .crash (.markup e) =>
    IO.eprintln (String.ofList e.message)
    return 1
  | .crash .unwritable => return 1
