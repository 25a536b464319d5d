import UsageScan.Event
import UsageScan.Outlet
/-!
# Traces

A trace shows the events of a run, one a line. Warnings are always shown, tokens only if they are
asked for. A trace that is written to an outlet stops at the first failure: nothing is written after
it, and it is what the trace ends with.

## Main definitions

* `Trace.text` — a whole trace
* `TraceSink` — a trace that is being written
* `TraceSink.handle`, `TraceSink.finish` — writing an event, and ending the trace
-/

set_option autoImplicit false

namespace UsageScan

namespace Trace

/-- Whether an event is shown. -/
def shows (tokens : Bool) (e : Event) : Bool :=
  !e.isToken || tokens

/-- An event as a line of its own. -/
def line (e : Event) : String :=
  e.render ++ "\n"

/-- The whole trace of some events. -/
def text (tokens : Bool) (events : List Event) : String :=
  ((events.filter (shows tokens)).map line).foldl (· ++ ·) ""

end Trace

/-- A trace that is being written. -/
structure TraceSink where
  outlet : Outlet
  /-- Whether tokens are shown. -/
  tokens : Bool
  /-- The failure at which writing stopped, if it has. -/
  fault : Option Outlet.Fault

namespace TraceSink

/-- A trace before the first event. -/
def start (outlet : Outlet) (tokens : Bool) : TraceSink :=
  ⟨outlet, tokens, none⟩

/-- Writes an event, if it is shown and nothing has failed yet. -/
def handle (s : TraceSink) (e : Event) : TraceSink :=
  if Trace.shows s.tokens e && s.fault.isNone then
    let (fault, outlet) := s.outlet.write (Trace.line e).toUTF8
    { s with outlet, fault }
  else s

/-- Writes several events in order. -/
def handleAll (s : TraceSink) (events : List Event) : TraceSink :=
  events.foldl handle s

/-- Ends the trace: the failure at which writing stopped, or that of passing on what was written. -/
def finish (s : TraceSink) : Option Outlet.Fault :=
  match s.fault with
  | some fault => some fault
  | none => s.outlet.flush

end TraceSink

end UsageScan
