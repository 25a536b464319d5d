import UsageScan.Command.Parameter
import UsageScan.Command.Size
import UsageScan.Options.Setting
import UsageScan.Text.ControlSequence
/-!
# Arguments of the command

A command line is read from left to right. What looks like a flag or a named parameter is taken for
one, even where a value is awaited, until two dashes alone make everything behind them a file. The
value of a parameter is examined only when the next flag or parameter comes, or at the end; one that
is joined to its name by an equals sign is examined at once. The first fault that is met ends the
reading, and so do the flags that ask for help or for the version.

## Main definitions

* `UsageError` — what can be wrong with a command line
* `Arguments` — what a command line gives
* `Request` — what a command line asks for
* `Reading` — how far the reading of a command line has come
* `Request.read` — reading a command line
-/

set_option autoImplicit false

namespace UsageScan.Command

/-- What is wrong with a command line. -/
inductive UsageError where
  | unexpectedArgument (argument : String)
  | unexpectedValue (value : String) (flag : Flag)
  | valueMissing (parameter : Parameter)
  | parameterRepeated (parameter : Parameter)
  | flagRepeated (flag : Flag)
  | invalidSize (value : String) (fault : SizeFault)
deriving DecidableEq, Repr

/-- A part of the command line in a message. It is cited without control sequences. -/
def cite (argument : String) : String :=
  "'" ++ Text.withoutControls argument ++ "'"

/-- A fault in words. -/
def UsageError.message : UsageError → String
  | unexpectedArgument argument => "unexpected argument " ++ cite argument ++ " found"
  | unexpectedValue value flag =>
    "unexpected value " ++ cite value ++ " for '" ++ flag.spelling ++
      "' found; no more were expected"
  | valueMissing parameter =>
    "a value is required for '" ++ parameter.spelling ++ "' but none was supplied"
  | parameterRepeated parameter =>
    "the argument '" ++ parameter.spelling ++ "' cannot be used multiple times"
  | flagRepeated flag => "the argument '" ++ flag.spelling ++ "' cannot be used multiple times"
  | invalidSize value fault =>
    "invalid value " ++ cite value ++ " for '" ++ Parameter.maxTokenLength.spelling ++ "': " ++
      fault.message

/-- What a command line gives. -/
structure Arguments where
  file : Option String
  stats : Option String
  config : Option String
  maxTokenLength : Option Nat
  checkSemicolons : Bool
  quiet : Bool
  verbose : Bool
deriving DecidableEq, Repr

namespace Arguments

/-- The command line that gives nothing. -/
def empty : Arguments :=
  ⟨none, none, none, none, false, false, false⟩

/-- Whether a parameter has been given. -/
def gives (a : Arguments) : Parameter → Bool
  | .stats => a.stats.isSome
  | .config => a.config.isSome
  | .maxTokenLength => a.maxTokenLength.isSome
  | .file => a.file.isSome

/-- Gives a parameter its value. A file name is not empty, but the name of the report may be. -/
def assign (a : Arguments) (parameter : Parameter) (value : String) :
    Except UsageError Arguments :=
  match parameter with
  | .stats => .ok { a with stats := some value }
  | .config =>
    if value = "" then .error (.valueMissing .config) else .ok { a with config := some value }
  | .file => if value = "" then .error (.valueMissing .file) else .ok { a with file := some value }
  | .maxTokenLength =>
    match readSize value with
    | .error fault => .error (.invalidSize value fault)
    | .ok n => .ok { a with maxTokenLength := some n }

/-- Gives a parameter the value that came with it, if one came. It must not have been given
before. -/
def accept (a : Arguments) (parameter : Parameter) (value : Option String) :
    Except UsageError Arguments :=
  match value with
  | none => .error (.valueMissing parameter)
  | some value =>
    if a.gives parameter then .error (.parameterRepeated parameter) else a.assign parameter value

/-- The settings that a command line gives besides those of a configuration file. -/
def settings (a : Arguments) : List Options.Setting :=
  (if a.checkSemicolons then [.checkSemicolons true] else []) ++
  (a.maxTokenLength.map fun n => .maxTokenLength (some n)).toList ++
  (a.stats.map fun path => .statsPath (some path)).toList ++
  (if a.quiet then [.trace false] else [])

end Arguments

/-- What a command line asks for. -/
inductive Request where
  | help
  | version
  | scan (arguments : Arguments)
deriving DecidableEq, Repr

/-- Why the reading of a command line ends early. -/
inductive Stop where
  | request (request : Request)
  | error (error : UsageError)
deriving DecidableEq, Repr

/-- How far the reading of a command line has come. -/
structure Reading where
  arguments : Arguments
  /-- A parameter that is still to be examined, with its value if it has come. -/
  pending : Option (Parameter × Option String)
  /-- Whether everything that follows is a file. -/
  filesOnly : Bool
deriving DecidableEq, Repr

namespace Reading

/-- The reading before the first argument. -/
def start : Reading :=
  ⟨.empty, none, false⟩

/-- Gives a parameter the value that came with it. -/
def accept (r : Reading) (parameter : Parameter) (value : Option String) : Except Stop Reading :=
  match r.arguments.accept parameter value with
  | .error error => .error (.error error)
  | .ok arguments => .ok { r with arguments }

/-- Examines what is pending. -/
def settle (r : Reading) : Except Stop Reading :=
  match r.pending with
  | none => .ok r
  | some (parameter, value) => { r with pending := none }.accept parameter value

/-- Whether a file has been given, examined or not. -/
def hasFile (r : Reading) : Bool :=
  r.arguments.gives .file || r.pending.any (·.1 == .file)

/-- Takes an argument for the file. -/
def takeFile (r : Reading) (argument : String) : Except Stop Reading :=
  if r.hasFile then .error (.error (.unexpectedArgument argument))
  else do
    let r ← r.settle
    .ok { r with pending := some (.file, some argument) }

/-- Raises a flag. -/
def raise (r : Reading) (flag : Flag) : Except Stop Reading := do
  let r ← r.settle
  let a := r.arguments
  let raised (before : Bool) (arguments : Arguments) : Except Stop Reading :=
    if before then .error (.error (.flagRepeated flag)) else .ok { r with arguments }
  match flag with
  | .help => .error (.request .help)
  | .version => .error (.request .version)
  | .checkSemicolons => raised a.checkSemicolons { a with checkSemicolons := true }
  | .quiet => raised a.quiet { a with quiet := true }
  | .verbose => raised a.verbose { a with verbose := true }

/-- Takes a name with the value joined to it, if one is. -/
def takeNamed (r : Reading) (name : String) (value : Option String) : Except Stop Reading :=
  match Parameter.ofName? name, Flag.ofName? name, value with
  | some parameter, _, some value => do (← r.settle).accept parameter (some value)
  | some parameter, _, none => do
    let r ← r.settle
    .ok { r with pending := some (parameter, none) }
  | none, some flag, some value => .error (.error (.unexpectedValue value flag))
  | none, some flag, none => r.raise flag
  | none, none, _ => .error (.error (.unexpectedArgument ("--" ++ name)))

/-- Takes the letters behind a single dash, each of which raises a flag. -/
def takeLetters (r : Reading) : List Char → Except Stop Reading
  | [] => .ok r
  | c :: cs =>
    match Flag.ofLetter? c with
    | none => .error (.error (.unexpectedArgument (.ofList ['-', c])))
    | some flag => do (← r.raise flag).takeLetters cs

/-- A name and the value joined to it by the first equals sign, if there is one. -/
def splitValue (cs : List Char) : String × Option String :=
  match cs.dropWhile (· ≠ '=') with
  | [] => (.ofList cs, none)
  | _ :: value => (.ofList (cs.takeWhile (· ≠ '=')), some (.ofList value))

/-- Takes an argument that looks like neither a flag nor a named parameter: the value awaited if
there is one, and the file otherwise. -/
def takeWord (r : Reading) (argument : String) : Except Stop Reading :=
  match r.pending with
  | some (parameter, none) => .ok { r with pending := some (parameter, some argument) }
  | _ => r.takeFile argument

/-- Takes an argument. A single dash is a word like any other. -/
def take (r : Reading) (argument : String) : Except Stop Reading :=
  if r.filesOnly then r.takeFile argument
  else
    match argument.toList with
    | ['-', '-'] => .ok { r with filesOnly := true }
    | '-' :: '-' :: cs =>
      let (name, value) := splitValue cs
      r.takeNamed name value
    | '-' :: c :: cs => r.takeLetters (c :: cs)
    | _ => r.takeWord argument

end Reading

/-- What a command line asks for, if it is well-formed. -/
def Request.read (arguments : List String) : Except UsageError Request :=
  let finished : Except Stop Reading := do (← arguments.foldlM Reading.take .start).settle
  match finished with
  | .ok r => .ok (.scan r.arguments)
  | .error (.request request) => .ok request
  | .error (.error error) => .error error

end UsageScan.Command
