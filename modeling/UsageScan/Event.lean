import UsageScan.Scanner
/-!
# Events

What a scan tells while it goes on: each token as it is handed out, and each warning right behind
the token that brought it about.
-/

set_option autoImplicit false

namespace UsageScan

/-- Something a scan tells. -/
inductive Event where
  | token (token : Token)
  | warning (warning : Warning)
deriving DecidableEq, Repr

namespace Event

/-- The trace line of an event. -/
def render : Event → String
  | token t => t.render
  | warning w => w.render

/-- Whether an event tells of a token. -/
def isToken : Event → Bool
  | token _ => true
  | warning _ => false

/-- The token that an event tells of. -/
def token? : Event → Option Token
  | token t => some t
  | warning _ => none

/-- The warning that an event tells of. -/
def warning? : Event → Option Warning
  | token _ => none
  | warning w => some w

end Event

/-- A step of a scan as it is told: the token, then the warnings that came with it. -/
def ScanStep.events (s : ScanStep) : List Event :=
  .token s.token :: s.warnings.map .warning

end UsageScan
