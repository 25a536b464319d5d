import UsageScan.Proofs.Recorded
/-!
# The semicolon check on its own

The check goes along with the binder, but neither looks at what the other does. So the warnings about
semicolons in the log are those that the check alone makes of the occurrences.

## Main definitions

* `SemicolonLint.take`, `SemicolonLint.warnings` — what the check makes of one occurrence, and of all
* `semicolonWarnings` — the warnings about semicolons that a scan records

## Main results

* `Findings.filter_log_observeAll` — the warnings about semicolons in the log
* `semicolonWarnings_eq` — those of a whole scan
-/

set_option autoImplicit false

namespace UsageScan

/-- Whether a warning is about a semicolon. -/
def Warning.isSemicolon (w : Warning) : Bool :=
  w.kind = .missingSemicolon

namespace SemicolonLint

/-- What the check makes of an occurrence: perhaps a warning, and the check behind it. -/
def take (lint : SemicolonLint) : Occurrence → Option Warning × SemicolonLint
  | .token t stop => (none, lint.observe t stop)
  | .declaration _ _ _ stop => (none, lint.observeDeclaration stop)
  | .lineBreak => lint.endLine
  | .endOfText => lint.endLine

/-- The warnings of the check over several occurrences. -/
def warnings (lint : SemicolonLint) : List Occurrence → List Warning
  | [] => []
  | o :: seen => (lint.take o).1.toList ++ (lint.take o).2.warnings seen

end SemicolonLint

namespace Findings

variable {f : Findings} {lint : SemicolonLint}

theorem lint_endLine (h : f.lint = some lint) : f.endLine.lint = some lint.endLine.2 := by
  obtain ⟨b, lint'⟩ := f
  obtain rfl : lint' = some lint := h
  obtain ⟨pending, headerKeyword, headerDepth, depth⟩ := lint
  cases pending <;> rfl

/-- The end of a line adds the warning of the check. -/
theorem filter_log_endLine (h : f.lint = some lint) :
    f.endLine.log.toList.filter Warning.isSemicolon =
      f.log.toList.filter Warning.isSemicolon ++ lint.endLine.1.toList := by
  have hunended : f.unended? = lint.endLine.1 := by
    rw [unended?, h]
    rfl
  rw [log_endLine, List.filter_append, hunended, SemicolonLint.endLine]
  cases lint.pending <;> rfl

theorem lint_observe (h : f.lint = some lint) (o : Occurrence) :
    (f.observe o).lint = some (lint.take o).2 := by
  cases o with
  | token t stop => simp [observe, h, SemicolonLint.take]
  | declaration name line offset stop => simp [observe, h, SemicolonLint.take]
  | lineBreak => exact lint_endLine h
  | endOfText => exact lint_endLine h

/-- Of the warnings about semicolons, an occurrence adds that of the check and no other. -/
theorem filter_log_observe (h : f.lint = some lint) (o : Occurrence) :
    (f.observe o).log.toList.filter Warning.isSemicolon =
      f.log.toList.filter Warning.isSemicolon ++ (lint.take o).1.toList := by
  cases o with
  | token t stop =>
    -- A token may be warned about as a name, which is a warning of another kind.
    have hname : (f.undeclared? t).toList.filter Warning.isSemicolon = [] := by
      rw [undeclared?]
      split <;> rfl
    rw [log_observe_token, List.filter_append, hname]
    rfl
  | declaration name line offset stop =>
    rw [log_observe_declaration]
    exact (List.append_nil _).symm
  | lineBreak => exact filter_log_endLine h
  | endOfText => exact filter_log_endLine h

/-- The warnings about semicolons in the log are those of the check. -/
theorem filter_log_observeAll (h : f.lint = some lint) (seen : List Occurrence) :
    (f.observeAll seen).log.toList.filter Warning.isSemicolon =
      f.log.toList.filter Warning.isSemicolon ++ lint.warnings seen := by
  induction seen generalizing f lint with
  | nil => exact (List.append_nil _).symm
  | cons o seen ih =>
    rw [observeAll_cons, ih (lint_observe h o), filter_log_observe h, List.append_assoc]
    rfl

end Findings

/-- The warnings about semicolons that a scan records. -/
def semicolonWarnings (source : String) (options : Options) : List Warning :=
  (Scanner.ofSource source options).finish.log.toList.filter Warning.isSemicolon

/-- A scan that checks semicolons records what the check makes of the source. -/
theorem semicolonWarnings_eq (source : String) {options : Options}
    (h : options.checkSemicolons = true) : semicolonWarnings source options =
      SemicolonLint.start.warnings
        (Pull.occurrencesFrom options.maxTokenLength (.ofText source)) := by
  have hstart : (Findings.start options.checkSemicolons).lint = some .start := by
    rw [h]
    rfl
  have hfindings := Scanner.findings_drain_ofSource source options
  rw [semicolonWarnings, Scanner.finish, Scanner.result, hfindings,
    Findings.filter_log_observeAll hstart]
  rfl

end UsageScan
