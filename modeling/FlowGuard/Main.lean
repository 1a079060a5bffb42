import FlowGuard.CommandLine.Run

/-!
The program: reads the files that the arguments name, writes the log to the error stream, and prints.
-/

namespace FlowGuard.CommandLine

def storedAt (path : String) : IO StoredFile := do
  try
    return .bytes (← IO.FS.readBinFile path).data
  catch
    | .noFileOrDirectory .. => return .missing .absent
    | .inappropriateType _ 20 _ => return .missing .throughFile
    | .inappropriateType .. => return .directory
    | .invalidArgument _ 36 _ => return .missing .nameTooLong
    | e => throw e

/-- The least level that is logged for a number of requests for more. -/
def leastLevel (verbosity : Nat) : Level :=
  if verbosity = 0 then .info else .debug

def logLine (a : Arguments) (n : Note) : String :=
  if a.json then
    (Json.record [("level", Json.ofString n.level.name), ("message", Json.ofString n.text)]).write
  else n.line

def runWith (a : Arguments) : IO UInt32 := do
  let image ← storedAt a.image
  let settings ← match a.settings with
    | some path => storedAt path
    | none => pure (.missing .absent)
  let outcome := run (fun path => if path = a.image then image else settings) a
  for n in outcome.notes do
    if (leastLevel a.verbosity).rank ≤ n.level.rank then
      IO.eprintln (logLine a n)
  match outcome.value with
  | .ok text =>
    IO.print text
    return 0
  | .error failure =>
    IO.eprint failure.report
    return 1

end FlowGuard.CommandLine

def main (args : List String) : IO UInt32 := do
  match FlowGuard.Arguments.parse args with
  | .ok a => FlowGuard.CommandLine.runWith a
  | .error .version =>
    IO.print FlowGuard.CommandLine.versionText
    return 0
  | .error .help =>
    IO.print FlowGuard.CommandLine.helpText
    return 0
  | .error .misuse =>
    IO.eprint FlowGuard.CommandLine.helpText
    return 2
