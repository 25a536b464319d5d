import UsageScan.Options
/-!
# Settings

A setting gives one field of the options a value. Options are built up from settings, whether these
come from a configuration file or from the command line.

## Main definitions

* `Options.Field`, `Options.Setting`
* `Options.apply`, `Options.applyAll` — options with some of their fields given anew
-/

set_option autoImplicit false

namespace UsageScan.Options

/-- The fields of the options. -/
inductive Field where
  | checkSemicolons
  | maxTokenLength
  | statsPath
  | trace
deriving DecidableEq, Repr

namespace Field

/-- All fields in their usual order. -/
def all : List Field :=
  [checkSemicolons, maxTokenLength, statsPath, trace]

/-- The name of a field in a configuration file. -/
def name : Field → String
  | checkSemicolons => "checkSemicolons"
  | maxTokenLength => "maxTokenLength"
  | statsPath => "statsPath"
  | trace => "trace"

/-- The field of a name. -/
def ofName? (name : String) : Option Field :=
  all.find? (·.name == name)

theorem mem_all (f : Field) : f ∈ all := by
  cases f <;> decide

theorem ofName?_name (f : Field) : ofName? f.name = some f := by
  cases f <;> decide

theorem name_of_ofName? {name : String} {f : Field} (h : ofName? name = some f) :
    f.name = name := by
  simpa using List.find?_some h

end Field

/-- A value for one field. -/
inductive Setting where
  | checkSemicolons (check : Bool)
  | maxTokenLength (limit : Option Nat)
  | statsPath (path : Option String)
  | trace (tokens : Bool)
deriving DecidableEq, Repr

/-- The field that a setting is for. -/
def Setting.field : Setting → Field
  | checkSemicolons _ => .checkSemicolons
  | maxTokenLength _ => .maxTokenLength
  | statsPath _ => .statsPath
  | trace _ => .trace

/-- Options with one field given anew. -/
def apply (o : Options) : Setting → Options
  | .checkSemicolons check => { o with checkSemicolons := check }
  | .maxTokenLength limit => { o with maxTokenLength := limit }
  | .statsPath path => { o with statsPath := path }
  | .trace tokens => { o with trace := tokens }

/-- Options with several fields given anew, one after another. -/
def applyAll (o : Options) (settings : List Setting) : Options :=
  settings.foldl apply o

end UsageScan.Options
