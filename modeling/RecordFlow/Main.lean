import RecordFlow.CommandLine.Execute

/-! The program: reads what a command names, executes it, and prints what it leaves behind. -/

namespace RecordFlow.CommandLine

/-- Why a file cannot be read, in the words of the system. -/
def readFailure (error : IO.Error) : String :=
  match error with
  | .noFileOrDirectory .. => "No such file or directory (os error 2)"
  | .permissionDenied .. => "Permission denied (os error 13)"
  | .inappropriateType .. => "Is a directory (os error 21)"
  | other => toString other

def readFile (path : String) : IO (Except String ByteArray) := do
  try
    return .ok (← IO.FS.readBinFile path)
  catch error =>
    return .error (readFailure error)

def readFiles : List String → IO (List (String × Except String ByteArray))
  | [] => return []
  | path :: rest => do
    let contents ← readFile path
    return (path, contents) :: (← readFiles rest)

def runProgram (arguments : List String) : IO UInt32 := do
  let command := Command.ofArguments arguments
  let files ← readFiles command.files
  let input ← if command.readsInput then (← IO.getStdin).readBinToEnd else pure ByteArray.empty
  let outcome := command.execute
    ⟨fun path => (files.lookup path).getD (.error "No such file or directory (os error 2)"), input⟩
  IO.print outcome.output
  IO.eprint outcome.errors
  return UInt32.ofNat outcome.exitCode

end RecordFlow.CommandLine

def main (arguments : List String) : IO UInt32 := RecordFlow.CommandLine.runProgram arguments
