import UsageScan.Event
/-!
# Runs

A run scans a source to its end and tells what happens: each token as it is handed out, and behind it
the warnings that are new in the log. What is new is known by counting: all warnings behind the first
`told` ones. Whether a declared name was used is only known at the end, so the warnings about unused
names come last: behind all others in the log, and behind all other events.

## Main definitions

* `ScanResult.withUnused` — a result with the warnings about unused names
* `Run`, `Run.ofSource` — the events of a run and what remains of it
* `Run.tellFrom` — telling all tokens that are left
-/

set_option autoImplicit false

namespace UsageScan

/-- The result of a scan with one more warning for each name that was never used. -/
def ScanResult.withUnused (r : ScanResult) : ScanResult :=
  { r with log := r.log.addAll r.table.unusedWarnings }

/-- What a run told, in order, and what remains of it. -/
structure Run where
  events : List Event
  result : ScanResult
deriving DecidableEq, Repr

namespace Run

/-- Tells all tokens that are left, behind the events told already, each with the warnings that are
not among the first `told` ones. Returned are all events, how many warnings have been told then, and
the scanner that has no token left. -/
def tellFrom (told : Nat) (s : Scanner) (events : Array Event) : Array Event × Nat × Scanner :=
  match _h : s.next with
  | (none, s') => (events, told, s')
  | (some token, s') =>
    tellFrom s'.findings.log.size s' (events ++ (s'.step told token).events)
termination_by s.cursor.rest.length
decreasing_by exact Scanner.length_next_lt _h

/-- The run over a source. What is told behind the last token are the warnings of the result that
have not been told by then. -/
def ofSource (source : String) (options : Options) : Run :=
  let (events, told, s) := tellFrom 0 (Scanner.ofSource source options) #[]
  let result := s.finish.withUnused
  let untold := result.log.since told
  ⟨events.toList ++ untold.map .warning, result⟩

end Run

end UsageScan
