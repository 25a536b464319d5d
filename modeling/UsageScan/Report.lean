import UsageScan.Json
import UsageScan.Run
/-!
# Reports

The report of a run, as a value and as the text of a file: every declared name and whether it was
used, the number of line breaks, and every warning in order.
-/

set_option autoImplicit false

namespace UsageScan

/-- A location as JSON. -/
def Location.toJson (l : Location) : Json :=
  .object [("line", .ofNat l.line), ("column", .ofNat l.column)]

/-- A declared name in a report. -/
structure Report.Variable where
  name : String
  used : Bool
deriving DecidableEq, Repr

/-- A warning in a report. -/
structure Report.Entry where
  message : String
  location : Option Location
deriving DecidableEq, Repr

/-- What a run reports. -/
structure Report where
  /-- The declared names in order. -/
  declared : List Report.Variable
  totalLines : Nat
  warnings : List Report.Entry
deriving DecidableEq, Repr

namespace Report

/-- The report of what remains of a run. -/
def ofResult (r : ScanResult) : Report where
  declared := r.table.symbols.map fun s => ⟨s.name, s.used⟩
  totalLines := r.totalLines
  warnings := r.log.toList.map fun w => ⟨w.message, w.location⟩

/-- A declared name as JSON. -/
def Variable.toJson (v : Variable) : Json :=
  .object [("name", .string v.name), ("used", .bool v.used)]

/-- A warning as JSON. One without a location has no such member. -/
def Entry.toJson (e : Entry) : Json :=
  .object (("message", .string e.message) ::
    match e.location with
    | none => []
    | some l => [("location", l.toJson)])

/-- A report as JSON. -/
def toJson (r : Report) : Json :=
  .object [
    ("variables", .array (r.declared.map Variable.toJson)),
    ("total_lines", .ofNat r.totalLines),
    ("warnings", .array (r.warnings.map Entry.toJson))]

/-- The text of a report. -/
def render (r : Report) : String :=
  r.toJson.render .indented

/-- The contents of a report file: the text and a line break. -/
def fileText (r : Report) : String :=
  r.render ++ "\n"

end Report

end UsageScan
