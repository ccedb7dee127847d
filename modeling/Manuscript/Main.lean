import Manuscript.CommandLine.Snapshot
import Std.Time.Format

/-!
The command itself: takes a picture of the files a run may look at, and hands out what the run
leaves.
-/

namespace Manuscript.CommandLine

def readFile? (path : String) : IO (Option ByteArray) := do
  try return some (← IO.FS.readBinFile path) catch _ => return none

/-- Whether a log file can be opened; it is made if it is not there. -/
def opens (path : String) : IO Bool := do
  try
    let _ ← IO.FS.Handle.mk path .append
    return true
  catch _ => return false

def readEnvironment : IO Environment := do
  variableNames.filterMapM fun name => do return (← IO.getEnv name).map fun value => (name, value)

def readClock : IO String := do
  return (← Std.Time.PlainDateTime.now).format "uuuu-MM-dd HH:mm:ss"

/-- What a run with some arguments finds around it. -/
def observe (args : List String) : IO Surroundings := do
  let here := Location.ofText (← IO.currentDir).toString
  let environment ← readEnvironment
  let named ← (namedPaths environment args).filterMapM fun p => do
    return (← readFile? p.text).map fun data => (p, data)
  let found ← (configLocations here).filterMapM fun loc => do
    return (← readFile? (Location.text loc)).map fun data => (loc, data)
  let folders ← (logFile? environment args).toList.filterMapM fun name => do
    let loc := here.follow (Path.ofText name)
    return if ← opens (Location.text loc) then some (Location.parent loc) else none
  return { tree := snapshot here named found folders, here, environment, clock := ← readClock }

/-- Writes one piece of text to its sink. -/
def deliver (e : Emission) : IO Unit := do
  match e.sink with
  | .errors => (← IO.getStderr).putStr e.text
  | .file loc =>
    let handle ← IO.FS.Handle.mk (Location.text loc) .append
    handle.putStr e.text

/-- Runs the command and hands out what it leaves; the result is the exit code. -/
def execute (args : List String) : IO UInt32 := do
  let reply := run (← observe args) args
  reply.emissions.forM deliver
  (← IO.getStdout).putStr reply.output
  match reply.exit with
  | .ok code => return code.toUInt32
  | .error e => return e.exitCode.toUInt32

end Manuscript.CommandLine

/-- Converts a markdown document into a filled template. -/
def main (args : List String) : IO UInt32 := Manuscript.CommandLine.execute args
