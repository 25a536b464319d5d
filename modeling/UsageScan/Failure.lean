import UsageScan.Files
import UsageScan.Options.Fault
/-!
# Failures

What can end a run: its input, its configuration or its report. A scan itself never fails, since
malformed text is classified and not refused.
-/

set_option autoImplicit false

namespace UsageScan

/-- Why a run ended early. -/
inductive Failure where
  | readInput (path : String) (cause : Files.Fault)
  /-- The input is not a text. -/
  | inputNotText (path : String)
  | readConfig (path : String) (cause : Files.Fault)
  | parseConfig (path : String) (cause : Options.Fault)
  | writeReport (path : String) (cause : Files.Fault)
  | serializeReport (cause : Json.Fault)
deriving DecidableEq, Repr

namespace Failure

/-- A failure in words. -/
def message : Failure → String
  | readInput path _ => "cannot read input file '" ++ path ++ "'"
  | inputNotText path => "input file '" ++ path ++ "' is not valid UTF-8"
  | readConfig path _ => "cannot read configuration file '" ++ path ++ "'"
  | parseConfig path _ => "malformed configuration file '" ++ path ++ "'"
  | writeReport path _ => "cannot write report file '" ++ path ++ "'"
  | serializeReport _ => "cannot serialize report"

/-- The file that a failure concerns, if it concerns one. -/
def path? : Failure → Option String
  | readInput path _ => some path
  | inputNotText path => some path
  | readConfig path _ => some path
  | parseConfig path _ => some path
  | writeReport path _ => some path
  | serializeReport _ => none

end Failure

end UsageScan
