import UsageScan.Position
import UsageScan.Text.Template
/-!
# Warnings

A warning is a condition worth reporting that does not stop a scan. Each kind has a code and a
wording of its own. Warnings are kept in the order in which they were recorded.

## Main definitions

* `Warning.Kind`, `Warning.Wording`, `Warning`
* `Warning.render` — the trace line of a warning
* `WarningLog` — the warnings recorded so far, which only ever grow
* `WarningLog.since` — the warnings recorded after a mark
-/

set_option autoImplicit false

namespace UsageScan

/-- What a warning reports. -/
inductive Warning.Kind where
  | undeclaredVariable
  | unusedVariable
  | missingSemicolon
deriving DecidableEq, Repr

/-- The name of a kind of warning. -/
def Warning.Kind.name : Warning.Kind → String
  | undeclaredVariable => "undeclared-variable"
  | unusedVariable => "unused-variable"
  | missingSemicolon => "missing-semicolon"

/-- How a kind of warning is put into words: its code and a template for its message. -/
structure Warning.Wording where
  code : Nat
  kind : Warning.Kind
  template : String
deriving DecidableEq, Repr

/-- The wording of a kind of warning. -/
def Warning.Kind.wording : Warning.Kind → Warning.Wording
  | undeclaredVariable => ⟨101, undeclaredVariable, "Undeclared variable used: \x7b0\x7d"⟩
  | unusedVariable => ⟨102, unusedVariable, "Unused variable: \x7b0\x7d"⟩
  | missingSemicolon => ⟨103, missingSemicolon, "Missing semicolon"⟩

/-- A condition worth reporting, in words, with the place it concerns if it concerns one. -/
structure Warning where
  code : Nat
  kind : Warning.Kind
  message : String
  location : Option Location
deriving DecidableEq, Repr

namespace Warning

/-- The warning that a wording makes of some arguments. -/
def ofWording (wording : Wording) (args : List String) (location : Option Location) : Warning where
  code := wording.code
  kind := wording.kind
  message := Text.fill wording.template args
  location := location

/-- A name was used that had not been declared before. -/
def undeclared (name : String) : Warning :=
  ofWording Kind.undeclaredVariable.wording [name] none

/-- A declared name was never used. -/
def unused (name : String) (declaration : Location) : Warning :=
  ofWording Kind.unusedVariable.wording [name] (some declaration)

/-- A line ended where a statement could have ended, without a semicolon. -/
def missingSemicolon (location : Location) : Warning :=
  ofWording Kind.missingSemicolon.wording [] (some location)

/-- The trace line of a warning. -/
def render (w : Warning) : String :=
  "[WARNING] " ++ w.message

end Warning

/-- The warnings recorded so far, in order. -/
structure WarningLog where
  entries : Array Warning
deriving DecidableEq, Repr

namespace WarningLog

/-- The log without a warning. -/
def empty : WarningLog :=
  ⟨#[]⟩

/-- The warnings in the order in which they were recorded. -/
def toList (log : WarningLog) : List Warning :=
  log.entries.toList

/-- The number of warnings. -/
def size (log : WarningLog) : Nat :=
  log.entries.size

/-- Whether there is no warning. -/
def isEmpty (log : WarningLog) : Bool :=
  log.entries.isEmpty

/-- Records a warning behind all others. -/
def add (log : WarningLog) (w : Warning) : WarningLog :=
  ⟨log.entries.push w⟩

/-- Records several warnings in order. -/
def addAll (log : WarningLog) (ws : List Warning) : WarningLog :=
  ws.foldl add log

/-- The warnings recorded when there were already `mark` of them. -/
def since (log : WarningLog) (mark : Nat) : List Warning :=
  (log.entries.extract mark log.entries.size).toList

/-- The number of warnings of a kind. -/
def countOf (log : WarningLog) (kind : Warning.Kind) : Nat :=
  log.entries.countP (·.kind == kind)

@[simp] theorem toList_add (log : WarningLog) (w : Warning) :
    (log.add w).toList = log.toList ++ [w] := by
  simp [toList, add]

@[simp] theorem toList_addAll (log : WarningLog) (ws : List Warning) :
    (log.addAll ws).toList = log.toList ++ ws := by
  induction ws generalizing log with
  | nil => simp [addAll]
  | cons w ws ih =>
    have := ih (log.add w)
    simp_all [addAll]

theorem size_eq_length_toList (log : WarningLog) : log.size = log.toList.length := rfl

@[simp] theorem since_eq_drop_toList (log : WarningLog) (mark : Nat) :
    log.since mark = log.toList.drop mark := by
  have hle : (log.entries.toList.drop mark).length ≤ log.entries.size - mark := by simp
  simp only [since, toList, Array.toList_extract, List.extract_eq_take_drop]
  exact List.take_of_length_le hle

end WarningLog

end UsageScan
