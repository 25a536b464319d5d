/-!
# Parameters of the command

What a command line may hold: flags, which stand alone, and parameters, which take a value. The file
to scan is a parameter that is given without a name.
-/

set_option autoImplicit false

namespace UsageScan.Command

/-- A flag. -/
inductive Flag where
  | checkSemicolons
  | quiet
  | verbose
  | help
  | version
deriving DecidableEq, Repr

namespace Flag

/-- All flags. -/
def all : List Flag :=
  [checkSemicolons, quiet, verbose, help, version]

/-- The name of a flag, behind its two dashes. -/
def name : Flag → String
  | checkSemicolons => "check-semicolons"
  | quiet => "quiet"
  | verbose => "verbose"
  | help => "help"
  | version => "version"

/-- The letter that stands for a flag behind a single dash, if there is one. -/
def letter? : Flag → Option Char
  | quiet => some 'q'
  | help => some 'h'
  | version => some 'V'
  | _ => none

/-- A flag as messages spell it. -/
def spelling (f : Flag) : String :=
  "--" ++ f.name

/-- The flag of a name. -/
def ofName? (name : String) : Option Flag :=
  all.find? (·.name == name)

/-- The flag of a letter. -/
def ofLetter? (c : Char) : Option Flag :=
  all.find? (·.letter? == some c)

end Flag

/-- A parameter. -/
inductive Parameter where
  | stats
  | config
  | maxTokenLength
  | file
deriving DecidableEq, Repr

namespace Parameter

/-- The parameters that are given by name. -/
def named : List Parameter :=
  [stats, config, maxTokenLength]

/-- The name of a parameter, behind its two dashes. The file has none. -/
def name? : Parameter → Option String
  | stats => some "stats"
  | config => some "config"
  | maxTokenLength => some "max-token-length"
  | file => none

/-- A parameter as messages spell it. -/
def spelling : Parameter → String
  | stats => "--stats <PATH>"
  | config => "--config <PATH>"
  | maxTokenLength => "--max-token-length <N>"
  | file => "[FILE]"

/-- The parameter of a name. -/
def ofName? (name : String) : Option Parameter :=
  named.find? (·.name? == some name)

end Parameter

end UsageScan.Command
