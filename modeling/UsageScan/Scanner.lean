import UsageScan.Findings
import UsageScan.Options
/-!
# Scanners

A scanner hands out the tokens of a source one at a time and keeps what has been found on the way.
Blanks behind a token are taken with it, so a warning about the end of its line is recorded before
the next token is asked for. Once the end has been seen, nothing changes any more.

## Main definitions

* `Scanner.next` — the next token, if there is one
* `Scanner.pull` — at most so many tokens
* `Scanner.drain` — all tokens that are left
* `ScanResult`, `Scanner.finish` — what remains of a scan

## Main results

* `Scanner.length_next_lt` — each token takes at least one character
-/

set_option autoImplicit false

namespace UsageScan

/-- A scan under way. -/
structure Scanner where
  limit : Option Nat
  cursor : Cursor
  findings : Findings
  /-- Whether the end of the source has been seen. -/
  finished : Bool
deriving DecidableEq, Repr

/-- What remains of a scan: the symbols, the warnings and the number of line breaks. -/
structure ScanResult where
  table : SymbolTable
  log : WarningLog
  totalLines : Nat
deriving DecidableEq, Repr

/-- A token handed out, with the warnings recorded while it was read and the counts behind it. -/
structure ScanStep where
  token : Token
  warnings : List Warning
  /-- The line breaks read so far. -/
  lines : Nat
  /-- The names declared so far. -/
  symbols : Nat
deriving DecidableEq, Repr

namespace Scanner

/-- The scanner before the first token of a source. -/
def ofSource (source : String) (options : Options) : Scanner where
  limit := options.maxTokenLength
  cursor := .ofText source
  findings := .start options.checkSemicolons
  finished := false

/-- The line breaks read so far. -/
def lines (s : Scanner) : Nat :=
  s.cursor.position.newlines

/-- The next token, if there is one, and the scanner behind it. -/
def next (s : Scanner) : Option Token × Scanner :=
  if s.finished then (none, s)
  else
    let start := s.cursor.skipBlanks
    let findings := s.findings.observeAll (lineBreaks s.cursor start)
    match Pull.read? s.limit start with
    | none => (none, ⟨s.limit, start, findings.observe .endOfText, true⟩)
    | some p => (some p.token, ⟨s.limit, p.stop, findings.observeAll p.occurrences, p.stop.atEnd⟩)

/-- A token handed out behind `told` warnings by a scanner that now stands at `s`. -/
def step (told : Nat) (token : Token) (s : Scanner) : ScanStep where
  token := token
  warnings := s.findings.log.since told
  lines := s.lines
  symbols := s.findings.binder.table.size

/-- What remains of a scan that has come this far. -/
def result (s : Scanner) : ScanResult where
  table := s.findings.binder.table
  log := s.findings.log
  totalLines := s.lines

/-- A token is handed out only by going forward. -/
theorem length_next_lt {s s' : Scanner} {token : Token} (h : s.next = (some token, s')) :
    s'.cursor.rest.length < s.cursor.rest.length := by
  have hskip : s.cursor.skipBlanks.rest.length ≤ s.cursor.rest.length :=
    Cursor.length_eatWhile_le _ _
  simp only [next] at h
  split at h
  · simp at h
  · split at h
    · simp at h
    · next p hp =>
      cases h
      exact Nat.lt_of_lt_of_le (Pull.length_read?_lt hp) hskip

/-- Hands out at most `count` tokens, behind the steps already made. The first `told` warnings came
with those. -/
def pullFrom (count told : Nat) (s : Scanner) (steps : Array ScanStep) : Array ScanStep × Scanner :=
  match count with
  | 0 => (steps, s)
  | count + 1 =>
    match s.next with
    | (none, s) => (steps, s)
    | (some token, s) => pullFrom count s.findings.log.size s (steps.push (s.step told token))

/-- Hands out at most `count` tokens. -/
def pull (count : Nat) (s : Scanner) : Array ScanStep × Scanner :=
  s.pullFrom count s.findings.log.size #[]

/-- Hands out all tokens that are left, behind the steps already made. The first `told` warnings
came with those. -/
def drainFrom (told : Nat) (s : Scanner) (steps : Array ScanStep) : Array ScanStep × Scanner :=
  match _h : s.next with
  | (none, s') => (steps, s')
  | (some token, s') => drainFrom s'.findings.log.size s' (steps.push (s'.step told token))
termination_by s.cursor.rest.length
decreasing_by exact length_next_lt _h

/-- Hands out all tokens that are left. -/
def drain (s : Scanner) : Array ScanStep × Scanner :=
  s.drainFrom s.findings.log.size #[]

/-- Reads on to the end and returns what remains of the scan. -/
def finish (s : Scanner) : ScanResult :=
  s.drain.2.result

end Scanner

end UsageScan
