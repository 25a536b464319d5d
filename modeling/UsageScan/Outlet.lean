/-!
# Outlets

An outlet is where bytes are written to. It may run out of room: then it takes what still fits and
refuses the rest, once, and would take everything after that. It may also fail to pass on what it
holds when it is asked to.

## Main definitions

* `Outlet.write` — writing some bytes
* `Outlet.flush` — passing on what was written
-/

set_option autoImplicit false

namespace UsageScan

/-- A place where bytes are written to. -/
structure Outlet where
  /-- What has been taken so far. -/
  written : ByteArray
  /-- The number of bytes that fit before one write is refused, if one will be. -/
  room : Option Nat
  /-- Whether what is held can be passed on. -/
  flushes : Bool

/-- Why an outlet failed. -/
inductive Outlet.Fault where
  /-- A write was refused. -/
  | closed
  /-- What was written could not be passed on. -/
  | flushFailed
deriving DecidableEq, Repr

namespace Outlet

/-- The outlet that holds nothing yet. -/
def start (room : Option Nat) (flushes : Bool) : Outlet :=
  ⟨.empty, room, flushes⟩

/-- Writes some bytes, or the part of them that fits. To write nothing never fails. -/
def write (o : Outlet) (bytes : ByteArray) : Option Fault × Outlet :=
  match o.room with
  | none => (none, { o with written := o.written ++ bytes })
  | some room =>
    if bytes.size ≤ room then
      (none, { o with written := o.written ++ bytes, room := some (room - bytes.size) })
    else
      (some .closed, { o with written := o.written ++ bytes.extract 0 room, room := none })

/-- Passes on what was written. -/
def flush (o : Outlet) : Option Fault :=
  if o.flushes then none else some .flushFailed

end Outlet

end UsageScan
