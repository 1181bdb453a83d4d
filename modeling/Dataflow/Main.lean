import Dataflow.CommandLine.Run

namespace Dataflow.CommandLine

def usage : String :=
  "usage: [-v] compile PATH [--alias TYPE=KIND] [-o FILE] [--function-name NAME] [--indent N] " ++
  "[--no-header] [--no-main]\n       [-v] eval PATH [--alias TYPE=KIND] [--set NODE=VALUE]"

-- The words of the system for the common ways in which a file operation fails.
def faultText : IO.Error → String
  | .noFileOrDirectory .. => "No such file or directory (os error 2)"
  | .permissionDenied .. => "Permission denied (os error 13)"
  | .inappropriateType .. => "Is a directory (os error 21)"
  | fault => toString fault

def attempt (action : IO α) : IO (Except String α) := do
  try return .ok (← action)
  catch fault => return .error (faultText fault)

def machine : Host IO where
  read path := attempt (IO.FS.readFile path)
  write path content := attempt (IO.FS.writeFile path content)
  now := IO.monoNanosNow

end Dataflow.CommandLine

def main (args : List String) : IO UInt32 := do
  match Dataflow.CommandLine.Request.ofArguments? args with
  | none =>
    IO.eprintln Dataflow.CommandLine.usage
    return 2
  | some request =>
    let report ← request.run Dataflow.CommandLine.machine
    report.notes.forM IO.eprintln
    report.output.forM IO.println
    return report.exit.toUInt32
