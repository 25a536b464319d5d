import UsageScan.Decimal.Shortest
import UsageScan.Json.Opening
import UsageScan.Options.Setting
import UsageScan.Text.Quoted
/-!
# Faults in configurations

What can be wrong with a text that should configure a run, and how it is put into words: it is not
JSON, or it is not the JSON that is asked for.
-/

set_option autoImplicit false

namespace UsageScan.Options

/-- What is asked for at some place of a configuration. -/
inductive Expected where
  | options
  | boolean
  | string
  | size
deriving DecidableEq, Repr

/-- What is wrong with a configuration. -/
inductive Fault where
  /-- The text is not JSON. -/
  | malformed (fault : Json.Fault)
  /-- A value is of the wrong type. -/
  | invalidType (found : Json.Opening) (expected : Expected)
  /-- A size is negative. -/
  | negativeSize (n : Int)
  | unknownField (name : String)
  | duplicateField (field : Field)
deriving DecidableEq, Repr

/-- The kinds of faults: the text broke off, it is not JSON, or it holds the wrong data. -/
inductive Fault.Category where
  | ended
  | malformed
  | data
deriving DecidableEq, Repr

/-- The kind of a fault. -/
def Fault.category : Fault → Category
  | malformed fault => if fault.isEnd then .ended else .malformed
  | _ => .data

/-- What is asked for, in words. -/
def Expected.describe : Expected → String
  | options => "struct ScanOptions"
  | boolean => "a boolean"
  | string => "a string"
  | size => "usize"

/-- Floating-point numbers are written positionally while the point falls behind one of the first
sixteen digits, or at most four zeros stand between it and the first digit. -/
def floatStyle : Decimal.Style :=
  ⟨-5, 16⟩

/-- How a value opens, in words. -/
def describeOpening : Json.Opening → String
  | .null => "null"
  | .boolean b => "boolean `" ++ (if b then "true" else "false") ++ "`"
  | .number (.integer n) => "integer `" ++ n.repr ++ "`"
  | .number (.float x) => "floating point `" ++ Decimal.ofFloat floatStyle x ++ "`"
  | .string s => "string " ++ Text.quote s
  | .list => "sequence"
  | .object => "map"

/-- A name between accents. -/
def accented (name : String) : String :=
  "`" ++ name ++ "`"

/-- A fault in words. -/
def Fault.message : Fault → String
  | malformed fault => fault.message
  | invalidType found expected =>
    "invalid type: " ++ describeOpening found ++ ", expected " ++ expected.describe
  | negativeSize n =>
    "invalid value: " ++ describeOpening (.number (.integer n)) ++ ", expected " ++
      Expected.size.describe
  | unknownField name =>
    "unknown field " ++ accented name ++ ", expected one of " ++
      ", ".intercalate (Field.all.map (accented ·.name))
  | duplicateField field => "duplicate field " ++ accented field.name

end UsageScan.Options
