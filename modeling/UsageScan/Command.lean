import UsageScan.Command.Arguments
import UsageScan.Session
import UsageScan.Text.Wrap
import UsageScan.Trace
/-!
# The command

The command scans one file, prints the trace and leaves a report. The configuration file comes
first, then the flags over it, then the input; a report that cannot be written is told last, behind
the whole trace.

## Main definitions

* `Command.Outcome` — what a command leaves behind besides files
* `Command.failureText` — how the heading of a failure is told
* `Command.run` — the command
-/

set_option autoImplicit false

namespace UsageScan.Command

/-- What a command leaves behind besides files: its exit code, all that it printed to the standard
output, and what of the standard error output is told here. -/
structure Outcome where
  code : Nat
  output : String
  /-- The heading of a failure or of a usage error, and nothing otherwise. What else goes to the
  standard error output is left out: the lines on the cause of a failure, the hint at the usage
  behind a usage error, and the log that `--verbose` or the environment asks for. -/
  errors : String
deriving DecidableEq, Repr

/-- The answer to a request for the version. -/
def versionText : String :=
  "jscan 0.1.0\n"

/-- How the command is used, on one line. -/
def usageText : String :=
  "Usage: jscan [OPTIONS] [FILE]\n"

/-- The answer to a request for help. -/
def helpText : String :=
  "\n".intercalate [
    "jscan - A tokenizer and variable usage checker for JavaScript",
    "",
    "Usage: jscan [OPTIONS] [FILE]",
    "",
    "Arguments:",
    "  [FILE]  Source file to scan",
    "",
    "Options:",
    "      --stats <PATH>          Where to write the JSON report [default: stats.json]",
    "      --config <PATH>         Read options from a JSON file; flags override it",
    "      --check-semicolons      Warn about statements that look like they are missing a semicolon",
    "      --max-token-length <N>  Clip token text to at most N characters",
    "  -q, --quiet                 Do not print tokens; warnings are still printed",
    "      --verbose               Log scanner activity to stderr",
    "  -h, --help                  Print help",
    "  -V, --version               Print version",
    ""]

/-- The outcome of a command line that is not well-formed. -/
def Outcome.ofUsageError (error : UsageError) : Outcome :=
  ⟨2, "", "error: " ++ error.message ++ "\n"⟩

/-- The columns that a line of a failure message has behind its mark. -/
def failureWidth : Nat :=
  74

/-- The heading of a failure as it is told: a cross before the first line of its message and a bar
before every further line. The lines on its cause, which come behind the heading, are left out. -/
def failureText (failure : Failure) : String :=
  match Text.wrap failureWidth failure.message with
  | [] => ""
  | line :: lines => "x " ++ line ++ "\n" ++ .join (lines.map fun line => "| " ++ line ++ "\n")

/-- The outcome of a failure behind some output. -/
def Outcome.ofFailure (output : String) (failure : Failure) : Outcome :=
  ⟨1, output, failureText failure⟩

variable {m : Type → Type} [Monad m] [FileAccess m]

/-- The options that a command line asks for: those of the configuration file if one is given, with
its flags over them. -/
def resolveOptions (a : Arguments) : m (Except Failure Options) := do
  match a.config with
  | none => return .ok (Options.default.applyAll a.settings)
  | some path => return (← readConfig path).map (·.applyAll a.settings)

/-- Scans a file under the options that a command line asks for. -/
def scanFile (a : Arguments) (file : String) : m Outcome := do
  match ← resolveOptions a with
  | .error failure => return .ofFailure "" failure
  | .ok options =>
    match ← Session.load file options with
    | .error failure => return .ofFailure "" failure
    | .ok session =>
      let (events, result) ← session.run
      let output := Trace.text options.trace events
      match result with
      | .error failure => return .ofFailure output failure
      | .ok _ => return ⟨0, output, ""⟩

/-- The command. Without a file it shows how it is used. -/
def run (arguments : List String) : m Outcome := do
  match Request.read arguments with
  | .error error => return .ofUsageError error
  | .ok .help => return ⟨0, helpText, ""⟩
  | .ok .version => return ⟨0, versionText, ""⟩
  | .ok (.scan a) =>
    match a.file with
    | none => return ⟨1, usageText, ""⟩
    | some file => scanFile a file

end UsageScan.Command
