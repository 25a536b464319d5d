/-!
# Options

The settings of a run: what is checked, how much of a token is shown, where the report goes and
whether tokens are traced.
-/

set_option autoImplicit false

namespace UsageScan

/-- The settings of a run. -/
structure Options where
  /-- Whether missing semicolons are warned about. -/
  checkSemicolons : Bool
  /-- The number of characters to which texts and names are clipped. -/
  maxTokenLength : Option Nat
  /-- Where the report is written, if not to the default place. -/
  statsPath : Option String
  /-- Whether tokens are traced. Warnings are traced in any case. -/
  trace : Bool
deriving DecidableEq, Repr

namespace Options

/-- The settings where nothing is set. -/
def default : Options :=
  ⟨false, none, none, true⟩

/-- The place of the report where none is set. -/
def defaultReportPath : String :=
  "stats.json"

/-- Where the report is written. -/
def reportPath (o : Options) : String :=
  o.statsPath.getD defaultReportPath

end Options

end UsageScan
