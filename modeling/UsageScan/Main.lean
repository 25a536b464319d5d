import UsageScan.Command
/-!
# The program

The command over the files of the machine. What it prints goes to the standard output and the
standard error output.
-/

set_option autoImplicit false

namespace UsageScan

/-- Why an operation on a file of the machine failed. -/
def Files.Fault.ofError : IO.Error → Files.Fault
  | .noFileOrDirectory .. => .notFound
  | .inappropriateType .. => .notADirectory
  | _ => .other

/-- The files of the machine. -/
instance : FileAccess IO where
  read path := do
    try
      return .ok (← IO.FS.readBinFile path)
    catch error =>
      return .error (.ofError error)
  write path contents := do
    try
      IO.FS.writeBinFile path contents
      return .ok ()
    catch error =>
      return .error (.ofError error)

end UsageScan

/-- Runs the command. Its exit code is 1 if its output cannot be printed. -/
def main (arguments : List String) : IO UInt32 := do
  let outcome : UsageScan.Command.Outcome ← UsageScan.Command.run arguments
  let output ← IO.getStdout
  try
    output.putStr outcome.output
    output.flush
    IO.eprint outcome.errors
    return outcome.code.toUInt32
  catch _ =>
    IO.eprintln "x cannot write to standard output"
    return 1
