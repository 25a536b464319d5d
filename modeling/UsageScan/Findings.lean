import UsageScan.Occurrence
import UsageScan.Binder
import UsageScan.Semicolon
/-!
# Findings

What is made of the occurrences of a source, one after another: the names declared and used, and, if
they are asked for, the lines that lack a semicolon. The two look at the occurrences independently;
only their warnings meet, in one log.
-/

set_option autoImplicit false

namespace UsageScan

/-- What has been found so far. There is a semicolon check only if it is asked for. -/
structure Findings where
  binder : Binder
  lint : Option SemicolonLint
deriving DecidableEq, Repr

namespace Findings

/-- Nothing found yet. -/
def start (checkSemicolons : Bool) : Findings :=
  ⟨.empty, if checkSemicolons then some .start else none⟩

/-- The warnings recorded so far. -/
def log (f : Findings) : WarningLog :=
  f.binder.log

/-- Ends a line for the semicolon check. -/
def endLine (f : Findings) : Findings :=
  match f.lint with
  | none => f
  | some lint =>
    match lint.endLine with
    | (some w, lint) => ⟨f.binder.report w, some lint⟩
    | (none, lint) => ⟨f.binder, some lint⟩

/-- Takes in an occurrence. -/
def observe (f : Findings) : Occurrence → Findings
  | .token t stop =>
    ⟨f.binder.follow t, f.lint.map (·.observe t stop)⟩
  | .declaration name line offset stop =>
    ⟨f.binder.declare name line offset, f.lint.map (·.observeDeclaration stop)⟩
  | .lineBreak => f.endLine
  | .endOfText => f.endLine

/-- Takes in several occurrences in order. -/
def observeAll (f : Findings) (seen : List Occurrence) : Findings :=
  seen.foldl observe f

end Findings

end UsageScan
