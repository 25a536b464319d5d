import UsageScan.Failure
import UsageScan.Options.Reader
import UsageScan.Report
/-!
# Sessions

A session holds one source with the options it is scanned under. Running it leaves the report in a
file. Everything that can fail for lack of files happens here.

## Main definitions

* `readConfig` — the options of a configuration file
* `readSource` — the text of an input file
* `Session.load`, `Session.run`
-/

set_option autoImplicit false

namespace UsageScan

variable {m : Type → Type} [Monad m] [FileAccess m]

/-- The options of a configuration file. -/
def readConfig (path : String) : m (Except Failure Options) := do
  match ← FileAccess.read path with
  | .error fault => return .error (.readConfig path fault)
  | .ok bytes =>
    match String.fromUTF8? bytes with
    | none => return .error (.readConfig path .invalidData)
    | some text => return (Options.read text).mapError (.parseConfig path)

/-- The text of an input file. -/
def readSource (path : String) : m (Except Failure String) := do
  match ← FileAccess.read path with
  | .error fault => return .error (.readInput path fault)
  | .ok bytes =>
    match String.fromUTF8? bytes with
    | none => return .error (.inputNotText path)
    | some text => return .ok text

/-- A source with the options it is scanned under. -/
structure Session where
  options : Options
  source : String
deriving DecidableEq, Repr

namespace Session

/-- The session over an input file. -/
def load (path : String) (options : Options) : m (Except Failure Session) := do
  return (← readSource path).map fun source => ⟨options, source⟩

/-- The run of a session. -/
def toRun (s : Session) : Run :=
  .ofSource s.source s.options

/-- Runs a session and writes its report. The events are told even if the report cannot be
written. -/
def run (s : Session) : m (List Event × Except Failure ScanResult) := do
  let run := s.toRun
  let path := s.options.reportPath
  match ← FileAccess.write path (Report.ofResult run.result).fileText.toUTF8 with
  | .error fault => return (run.events, .error (.writeReport path fault))
  | .ok () => return (run.events, .ok run.result)

end Session

end UsageScan
